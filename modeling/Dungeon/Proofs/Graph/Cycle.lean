import Dungeon.Proofs.Graph.WellFormed
import Dungeon.Proofs.Work.Rooted

/-!
# What the search for cycles names

Peeling takes nodes away while nothing that is left leads to them. What it leaves is fed from among
itself: the nodes on cycles, and with them all nodes that a cycle leads on to. So there is an error iff
there is a cycle, and it names each node on a cycle, but it also names nodes that are on none.
-/

namespace Dungeon

variable {α : Type}

/-- Elements each of which comes behind another one of them lie behind cycles. -/
theorem cycle_of_fed {β : Type} {r : β → β → Prop} {xs : List β} (fed : ∀ x ∈ xs, ∃ y ∈ xs, r y x)
    {x : β} (member : x ∈ xs) : ∃ c, Relation.TransGen r c c ∧ Relation.ReflTransGen r c x := by
  classical
  let Behind (x : β) : Prop := ∃ c, Relation.TransGen r c c ∧ Relation.ReflTransGen r c x
  -- The elements that are behind no cycle feed each other too, by steps that close no cycle.
  let aside (a b : β) : Prop := r a b ∧ ¬ Behind b
  have acyclic (x : β) : ¬ Relation.TransGen aside x x := by
    intro cycle
    obtain ⟨_, _, _, out⟩ := Relation.TransGen.tail'_iff.1 cycle
    exact out ⟨x, Relation.TransGen.mono (fun _ _ step => step.1) _ _ cycle, .refl⟩
  by_contra out
  have none_left : xs.filter (¬ Behind ·) = [] := by
    refine eq_nil_of_fed acyclic fun b left => ?_
    obtain ⟨there, free⟩ := List.mem_filter.1 left
    have free : ¬ Behind b := of_decide_eq_true free
    obtain ⟨a, member, step⟩ := fed b there
    refine ⟨a, List.mem_filter.2 ⟨member, decide_eq_true ?_⟩, step, free⟩
    rintro ⟨c, cycle, path⟩
    exact free ⟨c, cycle, path.tail step⟩
  have left : x ∈ xs.filter (¬ Behind ·) := List.mem_filter.2 ⟨member, decide_eq_true out⟩
  rw [none_left] at left
  cases left

namespace Graph

variable {g : Graph α} {id : String}

/-- Edges that can be followed lead from the node back to it. -/
def OnCycle (g : Graph α) (id : String) : Prop := Relation.TransGen g.Leads id id

/-- The node is on a cycle, or some node on a cycle leads on to it. -/
def Caught (g : Graph α) (id : String) : Prop :=
  ∃ c, g.OnCycle c ∧ Relation.ReflTransGen g.Leads c id

theorem OnCycle.caught (h : g.OnCycle id) : g.Caught id := ⟨id, h, .refl⟩

theorem Caught.fed (h : g.Caught id) : ∃ before, g.Leads before id ∧ g.Caught before := by
  obtain ⟨c, cycle, path⟩ := h
  rcases path.cases_tail with rfl | ⟨before, path, step⟩
  · obtain ⟨before, path, step⟩ := Relation.TransGen.tail'_iff.1 cycle
    exact ⟨before, step, id, cycle, path⟩
  · exact ⟨before, step, c, cycle, path⟩

theorem leads_iff {a b : String} :
    g.Leads a b ↔ ∃ e ∈ g.resolved, e.source.node = a ∧ e.target.node = b := by
  simp only [Leads, mem_resolved, and_assoc]

theorem mem_nodeIds_of_leads {a b : String} (step : g.Leads a b) : b ∈ g.nodeIds := by
  obtain ⟨e, _, ⟨_, _, joins⟩, _, rfl⟩ := step
  obtain ⟨n, found, _⟩ := joins.target
  exact mem_nodeIds_iff_node?.2 ⟨n, found⟩

/-- Peeling leaves the nodes on cycles and those behind them. -/
theorem mem_stuck_iff : id ∈ g.stuck g.resolved ↔ g.Caught id := by
  rw [stuck, mem_sortedTexts]
  constructor
  · refine cycle_of_fed fun id left => ?_
    obtain ⟨e, resolved, fed⟩ := List.any_eq_true.1 (fedBy_of_mem_peel (Nat.le_refl _) left)
    simp only [Bool.and_eq_true, beq_iff_eq, List.contains_iff_mem] at fed
    exact ⟨e.source.node, fed.2, leads_iff.2 ⟨e, resolved, rfl, fed.1⟩⟩
  · have inside (id : String) (caught : g.Caught id) : id ∈ g.nodeIds := by
      obtain ⟨_, step, _⟩ := caught.fed
      exact mem_nodeIds_of_leads step
    refine mem_peel_of_fed (s := g.Caught) inside (fun id caught => ?_) id
    obtain ⟨before, step, caught⟩ := Caught.fed caught
    obtain ⟨e, resolved, rfl, target⟩ := leads_iff.1 step
    exact ⟨e, resolved, target, caught⟩

theorem peel_sublist {edges : List (Edge α)} {rounds : Nat} {ids : List String} :
    (peel edges rounds ids).Sublist ids := by
  induction rounds generalizing ids with
  | zero => exact .refl ids
  | succ rounds ih =>
    rw [peel]
    split
    · exact ih.trans List.filter_sublist
    · exact .refl ids

/-- What is stuck is listed in order, without repetition. -/
theorem stuck_pairwise {edges : List (Edge α)} : (g.stuck edges).Pairwise (· < ·) := by
  have distinct : (g.stuck edges).Nodup :=
    (sortedTexts_perm _).nodup_iff.2 (peel_sublist.nodup (nodup_eraseDups _))
  refine ((sortedTexts_pairwise _).and distinct).imp fun ⟨le, ne⟩ => ?_
  by_contra not_less
  exact ne (String.le_antisymm le (String.not_lt.1 not_less))

/-- The error that names the nodes as being on a cycle. -/
def cycleThrough (ids : List String) : Violation where
  code := .cycle
  message := "Graph contains a cycle through: " ++ Value.joined ", " ids
  nodeId := ids.head?

theorem mem_cycles_iff {edges : List (Edge α)} {v : Violation} :
    v ∈ g.cycles edges ↔ g.stuck edges ≠ [] ∧ v = cycleThrough (g.stuck edges) := by
  unfold cycles
  split
  next none_left => simp [none_left]
  next id rest left => simp [left, cycleThrough]

theorem code_of_startAndOutputs {edges : List (Edge α)} {v : Violation}
    (h : v ∈ g.startAndOutputs edges) :
    v.code ∈ [.startHasInputs, .unreachable, .noOutput, .outputUnreachable, .startCount] := by
  have single {p : Prop} [Decidable p] {w : Violation} {codes : List Violation.Code}
      (code : w.code ∈ codes) (h : v ∈ if p then [w] else []) : v.code ∈ codes := by
    split at h
    · exact List.mem_singleton.1 h ▸ code
    · cases h
  unfold startAndOutputs at h
  dsimp only at h
  split at h
  next start _ =>
    rcases List.mem_append.1 h with h | h
    · rcases List.mem_append.1 h with h | h
      · rcases List.mem_append.1 h with h | h
        · exact single (by simp) h
        · obtain ⟨_, _, rfl⟩ := List.mem_map.1 h
          simp
      · exact single (by simp) h
    · obtain ⟨_, _, rfl⟩ := List.mem_map.1 h
      simp
  next =>
    rcases List.mem_cons.1 h with rfl | h
    · simp
    · exact single (by simp) h

/-- Only the search for cycles reports one. -/
theorem mem_errors_cycle_iff {v : Violation} :
    v ∈ g.errors ∧ v.code = .cycle ↔ v ∈ g.cycles g.resolved := by
  constructor
  · rintro ⟨h, code⟩
    rcases code_of_errors h with other | cyclic | last
    · simp [code] at other
    · exact cyclic
    · have := code_of_startAndOutputs last
      simp [code] at this
  · intro h
    refine ⟨?_, code_of_cycles h⟩
    simp [errors, h]

/-- There is an error about cycles iff edges that can be followed lead from some node back to it. It
names, in order, the nodes on cycles and the nodes that those lead on to. -/
theorem errors_name_caught (g : Graph α) :
    (∀ report, g.validate = .ok report → report.errors = g.errors) ∧
    ((∃ v ∈ g.errors, v.code = .cycle) ↔ ∃ id, g.OnCycle id) ∧
    ∃ ids : List String, ids.Pairwise (· < ·) ∧ (∀ id, id ∈ ids ↔ g.Caught id) ∧
      ∀ v ∈ g.errors, v.code = .cycle → v = cycleThrough ids := by
  refine ⟨fun report ran => ?_, ?_, g.stuck g.resolved, stuck_pairwise, fun id => mem_stuck_iff,
    fun v error code => (mem_cycles_iff.1 (mem_errors_cycle_iff.1 ⟨error, code⟩)).2⟩
  · obtain ⟨warnings, _, done⟩ := except_bind_eq_ok.1 ran
    cases done
    rfl
  · simp only [mem_errors_cycle_iff, mem_cycles_iff]
    constructor
    · rintro ⟨_, some_left, _⟩
      obtain ⟨id, left⟩ := List.exists_mem_of_ne_nil _ some_left
      obtain ⟨c, cycle, _⟩ := mem_stuck_iff.1 left
      exact ⟨c, cycle⟩
    · rintro ⟨id, cycle⟩
      exact ⟨_, List.ne_nil_of_mem (mem_stuck_iff.2 cycle.caught), rfl⟩

/-- A hall that leads back to the junction in front of it, and on to an exit. -/
def Eddy.graph : Graph Float where
  nodes := [
    ⟨"start", .start {}, [], [{ id := "out", side := .output }], ⟨.whole 0, .whole 0⟩⟩,
    ⟨"join", .merge {}, [{ id := "in1", side := .input }, { id := "in2", side := .input }],
      [{ id := "out", side := .output }], ⟨.whole 0, .whole 0⟩⟩,
    ⟨"hall", .sequence {}, [{ id := "in", side := .input }], [{ id := "out", side := .output }],
      ⟨.whole 0, .whole 0⟩⟩,
    ⟨"exit", .output {}, [{ id := "in", side := .input }], [], ⟨.whole 0, .whole 0⟩⟩]
  edges := [
    { id := "enter", source := ⟨"start", "out"⟩, target := ⟨"join", "in1"⟩ },
    { id := "on", source := ⟨"join", "out"⟩, target := ⟨"hall", "in"⟩ },
    { id := "back", source := ⟨"hall", "out"⟩, target := ⟨"join", "in2"⟩ },
    { id := "leave", source := ⟨"hall", "out"⟩, target := ⟨"exit", "in"⟩ }]

/-- The exit leads nowhere, and yet it is named as being on the cycle. -/
theorem errors_eddy : Eddy.graph.errors = [cycleThrough ["exit", "hall", "join"]] ∧
    ¬ Eddy.graph.OnCycle "exit" := by
  refine ⟨by decide +kernel, fun cycle => ?_⟩
  obtain ⟨_, ⟨e, edge, _, source, _⟩, _⟩ := Relation.TransGen.head'_iff.1 cycle
  have leads_on : ∀ e ∈ Eddy.graph.edges, e.source.node ≠ "exit" := by decide
  exact leads_on e edge source

end Graph

end Dungeon
