import Dungeon.Proofs.Run.Alike
import Dungeon.Proofs.Run.Completion

/-!
# Runs apart from one node

Two plans agree apart from a node when the second one has this node more, and nothing leads on from
it. A run of the second plan then does what a run of the first one does, and at times it settles an
edge to the further node, which changes nothing else.
-/

namespace Dungeon

variable {σ α : Type}

/-- The node `c` is in the second plan alone and nothing leads on from it. All else is in both. -/
structure Plan.AgreeApart (c : String) (p q : Plan α) : Prop where
  retries : q.retries = p.retries
  new : c ∉ p.graph.nodeIds
  silent : q.outgoing c = []
  late : q.firesEarly c = false
  nodeIds : ∀ id, id ≠ c → (id ∈ q.graph.nodeIds ↔ id ∈ p.graph.nodeIds)
  nodes : ∀ id, id ≠ c → q.graph.node? id = p.graph.node? id
  outgoing : ∀ id, id ≠ c →
    (q.outgoing id).filter (fun e => e.target.node ≠ c) = p.outgoing id
  inDegree : ∀ id, id ≠ c → q.inDegree id = p.inDegree id
  ports : ∀ ref, ref.node ≠ c → q.inputIndex? ref = p.inputIndex? ref
  strategies : ∀ id, id ≠ c → q.strategy? id = p.strategy? id

namespace Run

/-- The states agree on all nodes but `c`. -/
structure AgreeApart (c : String) (r s : Run α) : Prop where
  progress : ∀ id, id ≠ c → s.progress.find? id = r.progress.find? id
  winners : s.winners = r.winners
  pruned : s.pruned.filter (· ≠ c) = r.pruned

/-- The deliveries to other nodes than `c`. -/
def elsewhere (c : String) (ds : List (Delivery α)) : List (Delivery α) :=
  ds.filter fun d => d.1.target.node ≠ c

@[simp] theorem elsewhere_append (c : String) (ds es : List (Delivery α)) :
    elsewhere c (ds ++ es) = elsewhere c ds ++ elsewhere c es :=
  List.filter_append ..

/-- States that agree, with the same deliveries to other nodes to follow. -/
def InStepApart (c : String) (a b : Run α × List (Delivery α)) : Prop :=
  AgreeApart c a.1 b.1 ∧ elsewhere c b.2 = a.2

variable {c : String} {p q : Plan α} {r s : Run α}

namespace AgreeApart

variable (agree : AgreeApart c r s) {id : String} (other : id ≠ c)
include agree other

theorem state? : s.state? id = r.state? id := by
  rw [Run.state?, Run.state?, agree.progress id other]

theorem incoming : s.incoming id = r.incoming id := by
  rw [Run.incoming, Run.incoming, agree.progress id other]

theorem update (f : Progress α → Progress α) : AgreeApart c (r.update id f) (s.update id f) := by
  unfold Run.update
  rw [agree.progress id other]
  cases r.progress.find? id with
  | none => exact agree
  | some g =>
    refine ⟨fun j apart => ?_, agree.winners, agree.pruned⟩
    rw [Table.find?_insert, Table.find?_insert, agree.progress j apart]

theorem setState (state : NodeState) : AgreeApart c (r.setState id state) (s.setState id state) :=
  agree.update other _

end AgreeApart

theorem elsewhere_map (es : List (Edge α)) (f : Edge α → Option (Fragment α)) :
    elsewhere c (es.map fun e => (e, f e)) =
      (es.filter fun e => e.target.node ≠ c).map fun e => (e, f e) := by
  rw [elsewhere, List.filter_map]
  rfl

theorem prune_apart (plans : p.AgreeApart c q) (agree : AgreeApart c r s) {id : String}
    (other : id ≠ c) : InStepApart c (r.prune p id) (s.prune q id) := by
  have states := agree.setState other .pruned
  have listed : (s.pruned ++ [id]).filter (· ≠ c) = r.pruned ++ [id] := by
    rw [List.filter_append, agree.pruned]
    simp [other]
  refine ⟨⟨states.progress, states.winners, listed⟩, ?_⟩
  simp only [prune]
  rw [elsewhere_map, plans.outgoing id other]

theorem complete_apart (plans : p.AgreeApart c q) (agree : AgreeApart c r s) {id : String}
    (other : id ≠ c) : InStepApart c (r.complete p id) (s.complete q id) := by
  unfold complete
  rw [agree.progress id other]
  cases r.progress.find? id with
  | none => exact ⟨agree, rfl⟩
  | some g =>
    dsimp only
    split
    · split
      · exact prune_apart plans agree other
      · exact ⟨agree.setState other .ready, rfl⟩
    · exact ⟨agree, rfl⟩

theorem fire_apart (plans : p.AgreeApart c q) (agree : AgreeApart c r s) {e : Edge α}
    (other : e.target.node ≠ c) : AgreeApart c (r.fire p e) (s.fire q e) := by
  unfold fire
  dsimp only
  rw [plans.strategies _ other, agree.winners]
  exact ⟨(agree.setState other .ready).progress, rfl, (agree.setState other .ready).pruned⟩

theorem arrive_apart (plans : p.AgreeApart c q) (agree : AgreeApart c r s) {e : Edge α}
    (other : e.target.node ≠ c) (f : Fragment α) :
    Agree (AgreeApart c) (r.arrive p e f) (s.arrive q e f) := by
  unfold arrive
  rw [plans.ports _ other]
  cases p.inputIndex? e.target with
  | none => rfl
  | some port => exact agree.update other _

theorem firesEarly_apart (plans : p.AgreeApart c q) {id : String} (other : id ≠ c) :
    q.firesEarly id = p.firesEarly id := by
  rw [Plan.firesEarly, Plan.firesEarly, plans.strategies id other]

/-- An edge to another node is settled in both runs in the same way. -/
theorem settle_apart (plans : p.AgreeApart c q) (agree : AgreeApart c r s) {e : Edge α}
    (other : e.target.node ≠ c) (f : Option (Fragment α)) :
    Agree (InStepApart c) (r.settle p (e, f)) (s.settle q (e, f)) := by
  have counted := agree.update other fun g => { g with unsettled := g.unsettled - 1 }
  unfold settle
  dsimp only
  rw [counted.state? other, firesEarly_apart plans other]
  split
  · exact ⟨counted, rfl⟩
  · cases f with
    | none => exact complete_apart plans counted other
    | some f =>
      refine (arrive_apart plans counted other f).bind fun a b arrived => ?_
      split
      · exact ⟨fire_apart plans arrived other, rfl⟩
      · exact complete_apart plans arrived other

/-- An edge to the further node changes that node alone. -/
theorem Settled.apart (plans : p.AgreeApart c q) (agree : AgreeApart c r s) {e : Edge α}
    (target : e.target.node = c) {g : Progress α} {f : Option (Fragment α)} {s' : Run α}
    {more : List (Delivery α)} (step : Settled q s e g f s' more) :
    AgreeApart c r s' ∧ more = [] := by
  have progress (id : String) (other : id ≠ c) :
      s'.progress.find? id = r.progress.find? id := by
    rw [step.find?_of_ne (target ▸ other.symm), agree.progress id other]
  cases step with
  | late | waiting | ready => exact ⟨⟨progress, agree.winners, agree.pruned⟩, rfl⟩
  | early _ _ early =>
    rw [target, plans.late] at early
    cases early
  | pruned =>
    have listed : (s.pruned ++ [e.target.node]).filter (· ≠ c) = r.pruned := by
      rw [List.filter_append, agree.pruned]
      simp [target]
    refine ⟨⟨progress, agree.winners, listed⟩, ?_⟩
    rw [target, plans.silent]
    rfl

/-- An edge to the further node is settled in the second run alone. -/
theorem settle_further (plans : p.AgreeApart c q) (agree : AgreeApart c r s) {d : Delivery α}
    (target : d.1.target.node = c) {s' : Run α} {more : List (Delivery α)}
    (settled : s.settle q d = .ok (s', more)) : AgreeApart c r s' ∧ more = [] := by
  obtain ⟨e, f⟩ := d
  cases found : s.progress.find? e.target.node with
  | none =>
    cases (settle_none found f).symm.trans settled
    exact ⟨agree, rfl⟩
  | some g => exact (settled_of_settle found settled).apart plans agree target

/-- An edge to another node prunes its target in both runs or in none. -/
theorem AgreeApart.pruned_iff {r' s' : Run α} (agree : AgreeApart c r s) (agree' : AgreeApart c r' s')
    {id : String} (other : id ≠ c) (grown : s'.pruned = s.pruned ++ [id] ∨ s'.pruned = s.pruned) :
    r.pruned.length < r'.pruned.length ↔ s.pruned.length < s'.pruned.length := by
  rw [← agree.pruned, ← agree'.pruned]
  rcases grown with same | same <;> simp [same, other]

theorem settleAll_nil (p : Plan α) (nesting : Nat) (r : Run α) : settleAll p nesting [] r = .ok r := by
  cases nesting <;> rfl

/-- When the second run settles its edges, the first one settles those of them that it has, if this is so
of what follows from an edge. -/
theorem settleEach_apart (plans : p.AgreeApart c q)
    {cascade cascade' : List (Delivery α) → Run α → Except Fault (Run α)}
    (nested : ∀ {ds : List (Delivery α)} {r s s' : Run α}, AgreeApart c r s →
      cascade' ds s = .ok s' → ∃ r', cascade (elsewhere c ds) r = .ok r' ∧ AgreeApart c r' s')
    (quiet : ∀ {s s' : Run α}, cascade' [] s = .ok s' → s' = s)
    {ds : List (Delivery α)} {s' : Run α} (agree : AgreeApart c r s)
    (done : settleEach q cascade' ds s = .ok s') :
    ∃ r', settleEach p cascade (elsewhere c ds) r = .ok r' ∧ AgreeApart c r' s' := by
  induction ds generalizing r s with
  | nil =>
    cases done
    exact ⟨r, rfl, agree⟩
  | cons d rest ih =>
    obtain ⟨⟨s₁, more'⟩, settled', done⟩ := except_bind_eq_ok.1 done
    by_cases target : d.1.target.node = c
    · -- The first run stands still, and nothing follows in the second one.
      obtain ⟨agree₁, rfl⟩ := settle_further plans agree target settled'
      have same : elsewhere c (d :: rest) = elsewhere c rest := by simp [elsewhere, target]
      rw [same]
      dsimp only at done
      split at done
      · obtain ⟨s₂, below, later⟩ := except_bind_eq_ok.1 done
        exact ih agree₁ (quiet below ▸ later)
      · exact ih agree₁ done
    · have same : elsewhere c (d :: rest) = d :: elsewhere c rest := by simp [elsewhere, target]
      have inStep := settle_apart plans agree target d.2
      rw [settled'] at inStep
      cases settled : r.settle p d with
      | error f =>
        rw [settled] at inStep
        cases inStep
      | ok out =>
        obtain ⟨r₁, more⟩ := out
        rw [settled] at inStep
        obtain ⟨agree₁, follow⟩ := inStep
        have prunes := agree.pruned_iff agree₁ target
          ((prunes_of_settle settled').imp And.left And.left)
        rw [same, settleEach, settled]
        simp only [bind, Except.bind]
        dsimp only at done
        split at done
        next deeper =>
          obtain ⟨s₂, below, done⟩ := except_bind_eq_ok.1 done
          obtain ⟨r₂, below_here, agree₂⟩ := nested agree₁ below
          rw [follow] at below_here
          rw [if_pos (prunes.2 deeper), below_here]
          exact ih agree₂ done
        next level =>
          rw [if_neg (mt prunes.1 level)]
          exact ih agree₁ done

/-- The runs stay in step while all edges are settled, as far as the second one gets. -/
theorem settleAll_apart (plans : p.AgreeApart c q) {nesting : Nat} {ds : List (Delivery α)}
    {s' : Run α} (agree : AgreeApart c r s) (done : settleAll q nesting ds s = .ok s') :
    ∃ r', settleAll p nesting (elsewhere c ds) r = .ok r' ∧ AgreeApart c r' s' := by
  induction nesting generalizing ds r s s' with
  | zero =>
    refine settleEach_apart plans (fun _ failed => ?_) (fun failed => ?_) agree done
    all_goals cases failed
  | succ nesting ih =>
    refine settleEach_apart plans ih (fun {s s'} quiet => ?_) agree done
    exact Except.ok.inj (quiet.symm.trans (settleAll_nil q nesting s))

/-- What runs next is the ready node with the least id. -/
theorem next?_eq_some_iff (nodup : r.progress.keys.Nodup) {id : String} :
    r.next? = some id ↔
      r.state? id = some .ready ∧ ∀ j, r.state? j = some .ready → id ≤ j := by
  have listed (j : String) :
      j ∈ sortedTexts ((r.progress.entries.filter fun e => e.2.state = .ready).map Prod.fst) ↔
        r.state? j = some .ready := by
    rw [mem_sortedTexts, state?, Option.map_eq_some_iff, List.mem_map]
    constructor
    · rintro ⟨⟨_, g⟩, kept, rfl⟩
      obtain ⟨entry, ready⟩ := List.mem_filter.1 kept
      exact ⟨g, (Table.mem_entries_iff nodup).1 entry, of_decide_eq_true ready⟩
    · rintro ⟨g, found, ready⟩
      exact ⟨(j, g), List.mem_filter.2
        ⟨(Table.mem_entries_iff nodup).2 found, decide_eq_true ready⟩, rfl⟩
  have least {j : String} (first : r.next? = some j) :
      r.state? j = some .ready ∧ ∀ k, r.state? k = some .ready → j ≤ k := by
    refine ⟨(listed j).1 (List.mem_of_head? first), fun k ready => ?_⟩
    obtain ⟨rest, split⟩ := List.head?_eq_some_iff.1 first
    have sorted := sortedTexts_pairwise
      ((r.progress.entries.filter fun e => e.2.state = .ready).map Prod.fst)
    have member := (listed k).2 ready
    rw [split] at sorted member
    rcases List.mem_cons.1 member with rfl | later
    · exact String.le_refl k
    · exact (List.pairwise_cons.1 sorted).1 k later
  refine ⟨least, fun both => ?_⟩
  obtain ⟨ready, first⟩ := both
  cases next : r.next? with
  | none =>
    have empty := head?_sortedTexts_eq_none.1 next
    have member := (listed id).2 ready
    rw [empty] at member
    cases member
  | some j =>
    obtain ⟨ready', first'⟩ := least next
    rw [String.le_antisymm (first' id ready) (first j ready')]

namespace AgreeApart

variable {past past' : List (Execution α)} {log log' : List (Delivery α)}

/-- The run without the further node does not know it. -/
theorem state?_eq_none (plans : p.AgreeApart c q) (books : Ledger p past log [] r) :
    r.state? c = none := by
  cases state : r.state? c with
  | none => rfl
  | some s => exact absurd (books.mem_nodeIds_of_state? state) plans.new

theorem ready_iff (plans : p.AgreeApart c q) (books : Ledger p past log [] r)
    (agree : AgreeApart c r s) (id : String) :
    r.state? id = some .ready ↔ id ≠ c ∧ s.state? id = some .ready := by
  by_cases own : id = c
  · subst own
    simp [state?_eq_none plans books]
  · rw [agree.state? own]
    simp [own]

/-- When it is not the further node's turn, the same node runs next in both. -/
theorem next? (closed : p.Closed) (closed' : q.Closed) (plans : p.AgreeApart c q)
    (books : Ledger p past log [] r) (books' : Ledger q past' log' [] s)
    (agree : AgreeApart c r s) {id : String} (other : id ≠ c) (next : s.next? = some id) :
    r.next? = some id := by
  have ready := agree.ready_iff plans books
  obtain ⟨first, least⟩ :=
    (next?_eq_some_iff (books'.keys ▸ closed'.distinct)).1 next
  refine (next?_eq_some_iff (books.keys ▸ closed.distinct)).2 ⟨(ready id).2 ⟨other, first⟩, ?_⟩
  exact fun j h => least j ((ready j).1 h).2

/-- When nothing is ready in the second run, nothing is in the first one. -/
theorem next?_none (closed : p.Closed) (plans : p.AgreeApart c q) (books : Ledger p past log [] r)
    (agree : AgreeApart c r s) (rest : s.next? = none) : r.next? = none := by
  cases next : r.next? with
  | none => rfl
  | some id =>
    obtain ⟨first, _⟩ := (next?_eq_some_iff (books.keys ▸ closed.distinct)).1 next
    obtain ⟨g, found, ready⟩ := Option.map_eq_some_iff.1 ((agree.ready_iff plans books id).1 first).2
    exact absurd ready (not_ready_of_next? rest found)

end AgreeApart

theorem initial_apart [Scalar α] (plans : p.AgreeApart c q) :
    AgreeApart c (initial p) (initial q) := by
  obtain ⟨t, start, _, entries⟩ := initial_eq p
  obtain ⟨t', start', _, entries'⟩ := initial_eq q
  rw [start, start']
  refine ⟨fun id other => ?_, rfl, rfl⟩
  dsimp only
  rw [entries, entries', plans.inDegree id other]
  simp only [plans.nodeIds id other]

end Run

end Dungeon
