import Dungeon.Proofs.Failing
import Dungeon.Proofs.Graph.Sound
import Mathlib.Data.Fintype.Card
import Mathlib.Data.Set.Finite.Basic
import Mathlib.Order.WellFounded

/-!
# What validation accepts

`Graph.WellFormed` says what a graph has to satisfy, in terms of its nodes, ports and edges alone.
Validation reports no error for these graphs and for no others. It also names the nodes that the
start does not reach: they are those to which no path of resolved edges leads, in any graph with one
start.
-/

namespace Dungeon

variable {α : Type}

/-- Elements each of which comes behind another one of them lie on a cycle or do not exist. -/
theorem eq_nil_of_fed {β : Type} {r : β → β → Prop} (acyclic : ∀ x, ¬ Relation.TransGen r x x)
    {xs : List β} (fed : ∀ x ∈ xs, ∃ y ∈ xs, r y x) : xs = [] := by
  by_contra some_left
  obtain ⟨x, rest, rfl⟩ := List.exists_cons_of_ne_nil some_left
  let before (a b : { y // y ∈ x :: rest }) : Prop := Relation.TransGen r a.1 b.1
  have trans : IsTrans _ before := ⟨fun _ _ _ hab hbc => hab.trans hbc⟩
  have irrefl : Std.Irrefl before := ⟨fun a => acyclic a.1⟩
  have finite : Finite { y // y ∈ x :: rest } := List.finite_toSet _
  have founded : WellFounded before := Finite.wellFounded_of_trans_of_irrefl before
  obtain ⟨least, _, minimal⟩ := founded.has_min Set.univ ⟨⟨x, List.mem_cons_self⟩, trivial⟩
  obtain ⟨y, hy, step⟩ := fed least.1 least.2
  exact minimal ⟨y, hy⟩ trivial (.single step)

namespace Table

theorem nodup_keys_counts {κ : Type} [DecidableEq κ] (xs : List κ) : (counts xs).keys.Nodup := by
  have folded (t : Table κ Nat) (nodup : t.keys.Nodup) :
      (xs.foldl (fun t x => t.adjust x 0 (· + 1)) t).keys.Nodup := by
    induction xs generalizing t with
    | nil => exact nodup
    | cons x rest ih => exact ih _ (nodup_keys_insert nodup x _)
  exact folded empty .nil

end Table

namespace Graph

/-- The edge leads from the output port `p` to the input port `q`. -/
structure Joins (g : Graph α) (e : Edge α) (p q : Port α) : Prop where
  source : ∃ n, g.node? e.source.node = some n ∧ n.output? e.source.port = some p
  target : ∃ n, g.node? e.target.node = some n ∧ n.input? e.target.port = some q

/-- An edge that can be followed leads from the one node to the other. -/
def Leads (g : Graph α) (a b : String) : Prop :=
  ∃ e ∈ g.edges, (∃ p q, g.Joins e p q) ∧ e.source.node = a ∧ e.target.node = b

structure WellFormed (g : Graph α) : Prop where
  nodes : (g.nodes.map Node.id).Nodup
  edges : (g.edges.map Edge.id).Nodup
  joined : ∀ e ∈ g.edges, ∃ p q, g.Joins e p q ∧
    (p.dataType = q.dataType ∨ p.dataType = anyType ∨ q.dataType = anyType)
  ports : (g.edges.map Edge.target).Nodup
  merges : ∀ n ∈ g.nodes, n.kind = .merge →
    2 ≤ (g.edges.filter fun e => e.target.node = n.id).length
  acyclic : ∀ id, ¬ Relation.TransGen g.Feeds id id
  started : ∃ start, g.ofKind .start = [start] ∧ (∀ e ∈ g.edges, e.target.node ≠ start.id) ∧
    ∀ n ∈ g.nodes, Relation.ReflTransGen g.Feeds start.id n.id
  output : ∃ n ∈ g.nodes, n.kind = .output

theorem repeated_eq_nil_iff {κ : Type} [DecidableEq κ] {le : κ → κ → Bool} {xs : List κ} :
    repeated le (Table.counts xs) = [] ↔ xs.Nodup := by
  refine ⟨nodup_of_repeated_eq_nil, fun nodup => ?_⟩
  refine List.eq_nil_iff_forall_not_mem.2 fun ⟨k, n⟩ member => ?_
  obtain ⟨entry, many⟩ := List.mem_filter.1 ((sortBy_perm _ _).mem_iff.1 member)
  have found := (Table.mem_entries_iff (Table.nodup_keys_counts xs)).1 entry
  have count := Table.find?_counts xs k
  rw [found, Option.getD_some] at count
  have once := List.nodup_iff_count.1 nodup k
  have many : 1 < n := of_decide_eq_true many
  omega

section
variable {g : Graph α} {e : Edge α}

theorem joined?_eq_some {p q : Port α} : g.joined? e = some (p, q) ↔ g.Joins e p q := by
  unfold joined?
  constructor
  · intro h
    obtain ⟨m, source, h⟩ := Option.bind_eq_some_iff.1 h
    obtain ⟨n, target, h⟩ := Option.bind_eq_some_iff.1 h
    obtain ⟨p', output, h⟩ := Option.bind_eq_some_iff.1 h
    obtain ⟨q', input, h⟩ := Option.bind_eq_some_iff.1 h
    cases h
    exact ⟨⟨m, source, output⟩, ⟨n, target, input⟩⟩
  · rintro ⟨⟨m, source, output⟩, ⟨n, target, input⟩⟩
    simp [source, target, output, input]

theorem problems_eq_none_iff :
    g.sourceProblem e = none ∧ g.targetProblem e = none ↔ ∃ p q, g.Joins e p q := by
  constructor
  · rintro ⟨source, target⟩
    obtain ⟨m, found, output⟩ := sourceProblem_eq_none source
    obtain ⟨n, found', input⟩ := targetProblem_eq_none target
    obtain ⟨p, output⟩ := Option.isSome_iff_exists.1 output
    obtain ⟨q, input⟩ := Option.isSome_iff_exists.1 input
    exact ⟨p, q, ⟨m, found, output⟩, ⟨n, found', input⟩⟩
  · rintro ⟨p, q, ⟨m, source, output⟩, ⟨n, target, input⟩⟩
    simp [sourceProblem, targetProblem, source, target, output, input]

theorem mem_resolved : e ∈ g.resolved ↔ e ∈ g.edges ∧ ∃ p q, g.Joins e p q := by
  rw [resolved, List.mem_filter, ← problems_eq_none_iff, Bool.and_eq_true, Option.isNone_iff_eq_none,
    Option.isNone_iff_eq_none]

theorem danglingEdges_eq_nil_iff :
    g.danglingEdges = [] ↔ ∀ e ∈ g.edges, ∃ p q, g.Joins e p q := by
  simp only [danglingEdges, List.flatMap_eq_nil_iff, List.append_eq_nil_iff,
    Option.toList_eq_nil_iff, problems_eq_none_iff]

theorem accepts_iff {p q : Port α} : p.accepts q = true ↔
    p.dataType = q.dataType ∨ p.dataType = anyType ∨ q.dataType = anyType := by
  simp only [Port.accepts, Bool.or_eq_true, beq_iff_eq]
  tauto

theorem typeProblem_eq_none {p q : Port α} (joins : g.Joins e p q) :
    g.typeProblem e = none ↔
      p.dataType = q.dataType ∨ p.dataType = anyType ∨ q.dataType = anyType := by
  rw [← accepts_iff, typeProblem, joined?_eq_some.2 joins]
  dsimp only
  split <;> simp_all

/-- Peeling stops at nodes that are all fed from among themselves. -/
theorem fedBy_of_mem_peel {edges : List (Edge α)} {rounds : Nat} {ids : List String}
    (enough : ids.length ≤ rounds) {id : String} (h : id ∈ peel edges rounds ids) :
    fedBy edges (peel edges rounds ids) id = true := by
  induction rounds generalizing ids with
  | zero =>
    have empty : ids = [] := List.eq_nil_of_length_eq_zero (by omega)
    subst empty
    cases h
  | succ rounds ih =>
    rw [peel] at h ⊢
    by_cases less : (fed edges ids).length < ids.length
    · rw [if_pos less] at h ⊢
      exact ih (by omega) h
    · rw [if_neg less] at h ⊢
      have full : (fed edges ids).length = ids.length :=
        Nat.le_antisymm (List.length_filter_le _ _) (by omega)
      exact List.length_filter_eq_length_iff.1 full id h

theorem stuck_eq_nil {edges : List (Edge α)}
    (acyclic : ∀ id, ¬ Relation.TransGen
      (fun a b => ∃ e ∈ edges, e.source.node = a ∧ e.target.node = b) id id) :
    g.stuck edges = [] := by
  have peeled : peel edges g.nodeIds.length g.nodeIds = [] := by
    refine eq_nil_of_fed acyclic fun id left => ?_
    obtain ⟨e, he, fed⟩ := List.any_eq_true.1 (fedBy_of_mem_peel (Nat.le_refl _) left)
    simp only [Bool.and_eq_true, beq_iff_eq, List.contains_iff_mem] at fed
    exact ⟨e.source.node, fed.2, e, he, rfl, fed.1⟩
  rw [stuck, peeled]
  rfl

theorem mem_reachable_iff {edges : List (Edge α)} {start id : String} :
    id ∈ reachable edges start ↔ Relation.ReflTransGen
      (fun a b => ∃ e ∈ edges, e.source.node = a ∧ e.target.node = b) start id := by
  have relations : (successors edges).Leads =
      fun a b => ∃ e ∈ edges, e.source.node = a ∧ e.target.node = b := by
    funext a b
    exact propext leads_successors
  rw [← relations]
  exact Adjacency.mem_reachable_iff

/-- What the checks read as a path is a path of edges that can be followed. -/
theorem mem_reachable_resolved {start id : String} :
    id ∈ reachable g.resolved start ↔ Relation.ReflTransGen g.Leads start id := by
  rw [mem_reachable_iff]
  unfold Leads
  simp only [mem_resolved, and_assoc]

theorem underfedMerges_eq_nil_iff {edges : List (Edge α)} :
    g.underfedMerges edges = [] ↔ ∀ n ∈ g.nodes, n.kind = .merge →
      2 ≤ (edges.filter fun e => e.target.node = n.id).length := by
  have counted (n : Node α) :
      fanIn edges n.id = (edges.filter fun e => e.target.node = n.id).length := by
    rw [fanIn, List.countP_eq_length_filter]
    rfl
  simp only [underfedMerges, List.map_eq_nil_iff, List.filter_eq_nil_iff, ofKind, List.mem_filter,
    beq_iff_eq, counted, decide_eq_true_eq, Nat.not_lt, and_imp]

theorem startAndOutputs_eq_nil {edges : List (Edge α)} {start : Node α}
    (only : g.ofKind .start = [start]) (free : ∀ e ∈ edges, e.target.node ≠ start.id)
    (reached : ∀ n ∈ g.nodes, n.id ∈ reachable edges start.id)
    (output : ∃ n ∈ g.nodes, n.kind = .output) : g.startAndOutputs edges = [] := by
  obtain ⟨n, node, kind⟩ := output
  have unfed : (edges.any fun e => e.target.node == start.id) = false := by
    simpa using free
  have some_output : (g.ofKind .output).isEmpty = false := by
    have member : n ∈ g.ofKind .output := List.mem_filter.2 ⟨node, by simpa using kind⟩
    simpa using List.ne_nil_of_mem member
  have all_seen : (g.nodes.filter fun n =>
      !(reachable edges start.id).contains n.id && n.kind != .output) = [] := by
    simpa using fun n hn unseen => absurd (reached n hn) unseen
  have outputs_seen : ((g.ofKind .output).filter fun n =>
      !(reachable edges start.id).contains n.id) = [] := by
    refine List.filter_eq_nil_iff.2 fun n hn => ?_
    simpa using reached n (List.mem_filter.1 hn).1
  rw [startAndOutputs, only]
  simp only [startProblems, unreachedOutputs, unfed, some_output, all_seen, outputs_seen]
  rfl

theorem output_of_startAndOutputs {edges : List (Edge α)} (h : g.startAndOutputs edges = []) :
    ∃ n ∈ g.nodes, n.kind = .output := by
  have some_output : g.ofKind .output ≠ [] := by
    intro none_left
    unfold startAndOutputs at h
    rcases only : g.ofKind .start with _ | ⟨start, _ | ⟨second, rest⟩⟩ <;>
      simp [only, none_left] at h
  obtain ⟨n, rest, split⟩ := List.exists_cons_of_ne_nil some_output
  obtain ⟨node, kind⟩ := List.mem_filter.1 (split ▸ List.mem_cons_self : n ∈ g.ofKind .output)
  exact ⟨n, node, by simpa using kind⟩

theorem wellFormed_of_errors (h : g.errors = []) : g.WellFormed := by
  have sound := sound_of_errors h
  simp only [errors, List.append_eq_nil_iff] at h
  obtain ⟨⟨⟨⟨⟨⟨_, dangling⟩, types⟩, _⟩, merges⟩, _⟩, started⟩ := h
  rw [resolved_eq_edges dangling] at types merges
  refine {
    nodes := sound.nodes
    edges := sound.edges
    joined := fun e he => ?_
    ports := sound.ports
    merges := underfedMerges_eq_nil_iff.1 merges
    acyclic := fun id cycle => sound.acyclic.transGen.asymmetric _ _ cycle cycle
    started := sound.started
    output := output_of_startAndOutputs started }
  obtain ⟨p, q, joins⟩ := danglingEdges_eq_nil_iff.1 dangling e he
  exact ⟨p, q, joins, (typeProblem_eq_none joins).1 (List.filterMap_eq_nil_iff.1 types e he)⟩

theorem WellFormed.errors_eq_nil (h : g.WellFormed) : g.errors = [] := by
  have dangling : g.danglingEdges = [] :=
    danglingEdges_eq_nil_iff.2 fun e he => (h.joined e he).imp fun _ => .imp fun _ joins => joins.1
  have types : g.edges.filterMap g.typeProblem = [] := by
    refine List.filterMap_eq_nil_iff.2 fun e he => ?_
    obtain ⟨p, q, joins, types⟩ := h.joined e he
    exact (typeProblem_eq_none joins).2 types
  obtain ⟨start, only, free, reached⟩ := h.started
  have nodes : g.duplicateNodes = [] := List.map_eq_nil_iff.2 (repeated_eq_nil_iff.2 h.nodes)
  have edges : g.duplicateEdges = [] := List.map_eq_nil_iff.2 (repeated_eq_nil_iff.2 h.edges)
  have ports : overloadedPorts g.edges = [] := List.map_eq_nil_iff.2 (repeated_eq_nil_iff.2 h.ports)
  have no_cycle : g.cycles g.edges = [] := by rw [cycles, stuck_eq_nil h.acyclic]
  have started : g.startAndOutputs g.edges = [] :=
    startAndOutputs_eq_nil only free (fun n hn => mem_reachable_iff.2 (reached n hn)) h.output
  rw [errors, resolved_eq_edges dangling, nodes, edges, dangling, types, ports,
    underfedMerges_eq_nil_iff.2 h.merges, no_cycle, started]
  rfl

theorem errors_eq_nil_iff : g.errors = [] ↔ g.WellFormed :=
  ⟨wellFormed_of_errors, WellFormed.errors_eq_nil⟩

end

/-- Some error says that the start does not reach the node. -/
def Report.Unreached (r : Report) (id : String) : Prop :=
  ∃ v ∈ r.errors, (v.code = .unreachable ∨ v.code = .outputUnreachable) ∧ v.nodeId = some id

section
variable {g : Graph α} {v : Violation}

theorem code_of_sourceProblem {e : Edge α} (h : g.sourceProblem e = some v) :
    v.code = .missingNode ∨ v.code = .missingPort := by
  unfold sourceProblem at h
  split at h
  next => cases h; exact .inl rfl
  next =>
    split at h
    next => cases h
    next => cases h; exact .inr rfl

theorem code_of_targetProblem {e : Edge α} (h : g.targetProblem e = some v) :
    v.code = .missingNode ∨ v.code = .missingPort := by
  unfold targetProblem at h
  split at h
  next => cases h; exact .inl rfl
  next =>
    split at h
    next => cases h
    next => cases h; exact .inr rfl

theorem code_of_typeProblem {e : Edge α} (h : g.typeProblem e = some v) :
    v.code = .portTypeMismatch := by
  unfold typeProblem at h
  split at h
  next => cases h
  next =>
    split at h
    next => cases h
    next => cases h; rfl

theorem code_of_cycles {edges : List (Edge α)} (h : v ∈ g.cycles edges) : v.code = .cycle := by
  unfold cycles at h
  split at h
  next => cases h
  next => rw [List.mem_singleton.1 h]

/-- An error that neither the check of edge ids nor one of the last two checks reports is about node
ids, edges or ports. -/
theorem mem_or_code_of_errors (h : v ∈ g.errors) :
    v ∈ g.duplicateEdges ∨
      v.code ∈ [.duplicateNode, .missingNode, .missingPort, .portTypeMismatch, .portOverloaded,
        .mergeUnderfed] ∨
      v ∈ g.cycles g.resolved ∨ v ∈ g.startAndOutputs g.resolved := by
  simp only [errors, List.mem_append] at h
  rcases h with ((((((h | h) | h) | h) | h) | h) | h) | h
  case inr => exact .inr (.inr (.inr h))
  case inl.inr => exact .inr (.inr (.inl h))
  case inl.inl.inl.inl.inl.inl.inr => exact .inl h
  all_goals right; left
  · obtain ⟨_, _, rfl⟩ := List.mem_map.1 h
    simp
  · obtain ⟨e, _, h⟩ := List.mem_flatMap.1 h
    rcases List.mem_append.1 h with h | h
    · rcases code_of_sourceProblem (Option.mem_toList.1 h) with code | code <;> simp [code]
    · rcases code_of_targetProblem (Option.mem_toList.1 h) with code | code <;> simp [code]
  · obtain ⟨e, _, h⟩ := List.mem_filterMap.1 h
    simp [code_of_typeProblem h]
  · obtain ⟨_, _, rfl⟩ := List.mem_map.1 h
    simp
  · obtain ⟨_, _, rfl⟩ := List.mem_map.1 h
    simp

theorem code_of_duplicateEdges (h : v ∈ g.duplicateEdges) : v.code = .duplicateEdge := by
  obtain ⟨_, _, rfl⟩ := List.mem_map.1 h
  rfl

/-- An error that neither of the last two checks reports is about ids, edges or ports. -/
theorem code_of_errors (h : v ∈ g.errors) :
    v.code ∈ [.duplicateNode, .duplicateEdge, .missingNode, .missingPort, .portTypeMismatch,
        .portOverloaded, .mergeUnderfed] ∨
      v ∈ g.cycles g.resolved ∨ v ∈ g.startAndOutputs g.resolved := by
  rcases mem_or_code_of_errors h with twice | code | last
  · simp [code_of_duplicateEdges twice]
  · rcases List.mem_cons.1 code with node | other
    · simp [node]
    · exact .inl (List.mem_cons_of_mem _ (List.mem_cons_of_mem _ other))
  · exact .inr last

/-- Only the last check looks for nodes that are not reached. -/
theorem mem_startAndOutputs_of_code (h : v ∈ g.errors)
    (code : v.code = .unreachable ∨ v.code = .outputUnreachable) :
    v ∈ g.startAndOutputs g.resolved := by
  rcases code_of_errors h with other | cyclic | last
  · rcases code with code | code <;> simp [code] at other
  · simp [code_of_cycles cyclic] at code
  · exact last

theorem unseen_of_named {start : Node α} (only : g.ofKind .start = [start]) {id : String}
    (h : v ∈ g.errors) (code : v.code = .unreachable ∨ v.code = .outputUnreachable)
    (named : v.nodeId = some id) : id ∈ g.nodeIds ∧ id ∉ reachable g.resolved start.id := by
  have last := mem_startAndOutputs_of_code h code
  simp only [startAndOutputs, only, startProblems, unreachedOutputs, List.mem_append] at last
  rcases last with ((h | h) | h) | h
  · split at h
    · rw [List.mem_singleton.1 h] at code
      simp at code
    · cases h
  · obtain ⟨n, hn, rfl⟩ := List.mem_map.1 h
    obtain ⟨node, unseen⟩ := List.mem_filter.1 hn
    have unseen : n.id ∉ reachable g.resolved start.id := by
      simpa using (Bool.and_eq_true_iff.1 unseen).1
    cases named
    exact ⟨mem_nodeIds.2 ⟨n, node, rfl⟩, unseen⟩
  · split at h
    · rw [List.mem_singleton.1 h] at code
      simp at code
    · cases h
  · obtain ⟨n, hn, rfl⟩ := List.mem_map.1 h
    obtain ⟨node, unseen⟩ := List.mem_filter.1 hn
    cases named
    exact ⟨mem_nodeIds.2 ⟨n, (List.mem_filter.1 node).1, rfl⟩, by simpa using unseen⟩

theorem named_of_unseen {start n : Node α} (only : g.ofKind .start = [start]) (node : n ∈ g.nodes)
    (unseen : n.id ∉ reachable g.resolved start.id) :
    ∃ v ∈ g.errors, (v.code = .unreachable ∨ v.code = .outputUnreachable) ∧
      v.nodeId = some n.id := by
  have last {v : Violation} (h : v ∈ g.startAndOutputs g.resolved) : v ∈ g.errors :=
    List.mem_append_right _ h
  rw [startAndOutputs, only] at last
  by_cases out : n.kind = .output
  · have member : n ∈ (g.ofKind .output).filter fun n =>
        !(reachable g.resolved start.id).contains n.id :=
      List.mem_filter.2 ⟨List.mem_filter.2 ⟨node, by simpa using out⟩, by simpa using unseen⟩
    exact ⟨_, last (List.mem_append_right _ (List.mem_map_of_mem member)), .inr rfl, rfl⟩
  · have member : n ∈ g.nodes.filter fun n =>
        !(reachable g.resolved start.id).contains n.id && n.kind != .output :=
      List.mem_filter.2 ⟨node, by simpa using ⟨unseen, out⟩⟩
    exact ⟨_, last (List.mem_append_left _ (List.mem_append_left _
      (List.mem_append_right _ (List.mem_map_of_mem member)))), .inl rfl, rfl⟩

theorem named_iff {start : Node α} (only : g.ofKind .start = [start]) {id : String} :
    (∃ v ∈ g.errors, (v.code = .unreachable ∨ v.code = .outputUnreachable) ∧
        v.nodeId = some id) ↔
      id ∈ g.nodeIds ∧ id ∉ reachable g.resolved start.id := by
  constructor
  · rintro ⟨v, error, code, named⟩
    exact unseen_of_named only error code named
  · rintro ⟨known, unseen⟩
    obtain ⟨n, node, rfl⟩ := mem_nodeIds.1 known
    exact named_of_unseen only node unseen

theorem missingIds_texts (known : List String) {vs : List (Value α)}
    (texts : ∀ v ∈ vs, ∃ s, v = .text s) :
    ∃ missing : List String, missingIds known vs = .ok (missing.map .text) := by
  induction vs with
  | nil => exact ⟨[], rfl⟩
  | cons v rest ih =>
    obtain ⟨s, rfl⟩ := texts v List.mem_cons_self
    obtain ⟨missing, found⟩ := ih fun v hv => texts v (List.mem_cons_of_mem _ hv)
    rw [missingIds, found]
    by_cases member : s ∈ known
    · exact ⟨missing, by simp [bind, Except.bind, pure, Except.pure, member]⟩
    · exact ⟨s :: missing, by simp [bind, Except.bind, pure, Except.pure, member]⟩

theorem textsFrom_texts (i : Nat) (texts : List String) :
    textsFrom i (texts.map (.text : String → Value α)) = .ok texts := by
  induction texts generalizing i with
  | nil => rfl
  | cons s rest ih =>
    rw [List.map_cons, textsFrom, ih]
    rfl

theorem groupWarning_ok {group : Group α} (texts : ∀ v ∈ group.nodeIds, ∃ s, v = .text s) :
    ∃ found, g.groupWarning group = .ok found := by
  obtain ⟨missing, h⟩ := missingIds_texts (g.nodes.map Node.id) texts
  rw [groupWarning, h]
  simp only [bind, Except.bind, pure, Except.pure, textsFrom_texts]
  split
  · exact ⟨_, rfl⟩
  · exact ⟨_, rfl⟩

/-- Ids in groups are the only thing that can keep validation from giving a report. -/
theorem validate_ok (texts : ∀ group ∈ g.groups, ∀ v ∈ group.nodeIds, ∃ s, v = .text s) :
    ∃ report, g.validate = .ok report ∧ report.errors = g.errors := by
  obtain ⟨groups, h⟩ := mapM_ok fun group hg => groupWarning_ok (g := g) (texts group hg)
  refine ⟨⟨g.errors, groups.flatten ++ g.danglingOutputs g.resolved⟩, ?_, rfl⟩
  rw [validate, warnings, h]
  rfl

end

/-- Validation accepts the well-formed graphs and names the nodes that the start does not reach. -/
theorem validate_exact {g : Graph α}
    (texts : ∀ group ∈ g.groups, ∀ v ∈ group.nodeIds, ∃ s, v = .text s) :
    ∃ report, g.validate = .ok report ∧ (report.valid = true ↔ g.WellFormed) ∧
      ∀ start, g.ofKind .start = [start] → ∀ id, report.Unreached id ↔
        (∃ n ∈ g.nodes, n.id = id) ∧ ¬ Relation.ReflTransGen g.Leads start.id id := by
  obtain ⟨report, ran, errors⟩ := validate_ok texts
  refine ⟨report, ran, ?_, fun start only id => ?_⟩
  · rw [Report.valid, List.isEmpty_iff, errors, errors_eq_nil_iff]
  · rw [Report.Unreached, errors, named_iff only, mem_nodeIds, mem_reachable_resolved]

/-- An exit and, in a group of its own, a room that no edge leads to. -/
def Stray.graph : Graph Float where
  nodes := [
    ⟨"start", .start {}, [], [{ id := "out", side := .output }], ⟨.whole 0, .whole 0⟩⟩,
    ⟨"exit", .output {}, [{ id := "in", side := .input }], [], ⟨.whole 0, .whole 0⟩⟩,
    ⟨"lost", .sequence {}, [{ id := "in", side := .input }], [], ⟨.whole 0, .whole 0⟩⟩]
  edges := [{ id := "leave", source := ⟨"start", "out"⟩, target := ⟨"exit", "in"⟩ }]
  groups := [⟨"aside", "Aside", [.text "lost", .text "gone"], .null⟩]

theorem validate_exact_stray : ∃ report, Stray.graph.validate = .ok report ∧
    ¬ Stray.graph.WellFormed ∧ report.Unreached "lost" := by
  obtain ⟨report, ran, valid, unreached⟩ := validate_exact (g := Stray.graph) (by
    simp [Stray.graph])
  have invalid : report.valid = false := by
    cases ran
    rfl
  refine ⟨report, ran, fun accepted => ?_,
    (unreached _ rfl "lost").2 ⟨by simp [Stray.graph], fun path => ?_⟩⟩
  · rw [valid.2 accepted] at invalid
    cases invalid
  · rcases path.cases_tail with same | ⟨_, _, e, he, _, _, target⟩
    · simp at same
    · simp [Stray.graph] at he
      simp [he] at target

end Graph

end Dungeon
