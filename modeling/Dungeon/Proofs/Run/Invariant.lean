import Dungeon.Proofs.Graph.Sound
import Dungeon.Proofs.Run.Ledger

/-!
# Every state has a ledger

The first state of a run has a ledger without entries. Running a node enters what it sends, settling
the edges that leave it enters what follows from that, and so every state that a run comes to has a
ledger in which all is settled. On a closed plan only the work of a node can fail.
-/

namespace Dungeon.Run

variable {α : Type}

section
variable {p : Plan α} {past : List (Execution α)} {log work : List (Delivery α)} {r : Run α}

/-- Setting the state of nodes in turn changes only their states. -/
theorem foldl_setState (s : NodeState) (ids : List String) (r : Run α) :
    ∃ t, ids.foldl (fun r id => r.setState id s) r = { r with progress := t } ∧
      t.keys = r.progress.keys ∧ ∀ id, t.find? id =
        if id ∈ ids then (r.progress.find? id).map fun g => { g with state := s }
        else r.progress.find? id := by
  induction ids generalizing r with
  | nil => exact ⟨r.progress, rfl, rfl, fun id => by simp⟩
  | cons first rest ih =>
    rw [List.foldl_cons]
    cases found : r.progress.find? first with
    | none =>
      have same : r.setState first s = r := by rw [setState, update, found]
      obtain ⟨t, folded, keys, entries⟩ := ih r
      refine ⟨t, by rw [same, folded], keys, fun id => ?_⟩
      by_cases h : id = first
      · subst h
        simp [entries, found]
      · simp [entries, h]
    | some g =>
      rw [setState, update_eq found]
      obtain ⟨t, folded, keys, entries⟩ :=
        ih { r with progress := r.progress.insert first { g with state := s } }
      refine ⟨t, folded, keys.trans (Table.keys_insert_of_find? found _), fun id => ?_⟩
      rw [entries]
      by_cases h : first = id
      · subst h
        simp [Table.find?_insert, found]
      · simp [Table.find?_insert, h, Ne.symm h]

theorem mem_roots {id : String} : id ∈ p.roots ↔ id ∈ p.graph.nodeIds ∧ p.inDegree id = 0 := by
  rw [Plan.roots, mem_sortedTexts, List.mem_filter, beq_iff_eq]

/-- At first the roots are ready, and all other nodes wait for their edges. -/
theorem initial_eq [Scalar α] (p : Plan α) :
    ∃ t, initial p = { progress := t, draft := Draft.empty } ∧ t.keys = p.graph.nodeIds ∧
      ∀ id, t.find? id = if id ∈ p.graph.nodeIds then
        some ⟨if p.inDegree id = 0 then .ready else .pending, p.inDegree id, []⟩ else none := by
  obtain ⟨t, folded, keys, entries⟩ := foldl_setState .ready p.roots
    ({ progress := ⟨p.graph.nodeIds.map fun id => (id, { unsettled := p.inDegree id })⟩
       draft := Draft.empty } : Run α)
  refine ⟨t, folded, ?_, fun id => ?_⟩
  · rw [keys]
    simp [Table.keys, Function.comp_def]
  · rw [entries, Table.find?, Table.lookup_map_self]
    by_cases member : id ∈ p.graph.nodeIds
    · by_cases root : p.inDegree id = 0 <;> simp [mem_roots, member, root]
    · simp [mem_roots, member]

/-- The ledger of the first state. -/
theorem ledger_initial [Scalar α] (p : Plan α) : Ledger p [] [] [] (initial p) := by
  obtain ⟨t, start, keys, entries⟩ := initial_eq p
  have state (id : String) : (initial p).state? id = none ∨
      (initial p).state? id = some .ready ∨ (initial p).state? id = some .pending := by
    rw [start, state?, entries]
    split
    · split <;> simp
    · simp
  have unlike {s : NodeState} (started : s ≠ .ready) (active : s ≠ .pending) (id : String) :
      (initial p).state? id ≠ some s := by
    rcases state id with h | h | h <;> simp [h, started.symm, active.symm]
  have unfinished (id : String) : (initial p).finished id = false := by
    simp [finished, unlike]
  refine {
    keys := by rw [start, keys]
    accounts := ?_
    once := .nil
    done := fun id => by simp [unlike]
    calm := fun id => ⟨unlike (by simp) (by simp) id, unlike (by simp) (by simp) id⟩
    executions := by rw [start]; rfl
    edges := by simp [unfinished]
    carried := rfl
    prunedOnce := by rw [start]; exact .nil
    pruned := fun id => iff_of_false (by simp [start]) (unlike (by simp) (by simp) id)
    winnersOnce := by rw [start]; exact .nil
    winners := fun id => by rw [start]; simp [sentTo, Table.find?, Table.lookup] }
  intro id g found
  rw [start, entries] at found
  split at found
  · cases found
    refine ⟨by simp [settledTo], by simp [sentTo], ?_, ?_⟩
    · by_cases root : p.inDegree id = 0 <;>
        simp [Waiting, settledTo, sentTo, root, Nat.pos_of_ne_zero]
    · by_cases root : p.inDegree id = 0
      · simp [Starved, root]
      · simp [Starved, settledTo, root, Ne.symm root]
  · cases found

/-- Settling edges and all that follows from them keeps the ledger. -/
theorem Ledger.settles (linked : p.Linked) {work' : List (Delivery α)} {r' : Run α}
    (books : Ledger p past log work r) (settles : Settles p work r work' r') :
    ∃ log', Ledger p past (log ++ log') work' r' := by
  induction settles generalizing log with
  | refl => exact ⟨[], by simpa using books⟩
  | step settled _ ih =>
    obtain ⟨log', books'⟩ := ih (books.settle linked settled)
    exact ⟨_, by simpa only [List.append_assoc] using books'⟩

/-- Nodes that were pruned one for the other are nodes of the graph in a row. -/
theorem Ledger.deeperThan (books : Ledger p past log work r) {depth : Nat} {chain : List String}
    (long : depth < chain.length) (linked : chain.IsChain p.graph.Feeds) (pruned : chain ⊆ r.pruned) :
    p.graph.DeeperThan depth := by
  refine ⟨chain, long, fun id sunk => ?_, linked⟩
  obtain ⟨g, found, _⟩ := Option.map_eq_some_iff.1 ((books.pruned id).1 (pruned sunk))
  exact books.mem_nodeIds found

/-- On a closed plan settling gets stuck only where the graph is too deep. -/
theorem Ledger.deeperThan_of_stuck (closed : p.Closed) {nesting : Nat} {ds : List (Delivery α)}
    {f : Fault} (books : Ledger p past log work r) (stuck : Stuck p nesting ds work r f) :
    f = .tooDeep ∧ p.graph.DeeperThan nesting := by
  cases stuck with
  | @astray d rest _ _ failed =>
    obtain ⟨_, settled⟩ := settle_succeeds r d.2 (closed.ports d.1 books.mem_edges)
    cases settled.symm.trans failed
  | sunk _ long chain pruned => exact ⟨rfl, books.deeperThan (by simp [long]) chain pruned⟩

/-- All work is settled, unless more nodes are pruned in a row than the host bears. -/
theorem Ledger.settleAll_cases (closed : p.Closed) (books : Ledger p past log work r)
    (nesting : Nat) :
    (∃ r', settleAll p nesting work r = .ok r') ∨
      settleAll p nesting work r = .error .tooDeep ∧ p.graph.DeeperThan nesting := by
  rcases Run.settleAll_cases p nesting work r with
    ⟨r', settled, _⟩ | ⟨work', r', f, failed, settles, stuck⟩
  · exact .inl ⟨r', settled⟩
  · obtain ⟨log', books'⟩ := books.settles closed.linked settles
    obtain ⟨rfl, deeper⟩ := books'.deeperThan_of_stuck closed stuck
    exact .inr ⟨failed, deeper⟩

/-- Running a ready node keeps the ledger; what it sends is to be settled next. -/
theorem Ledger.perform {id : String} {g : Progress α} (books : Ledger p past log [] r)
    (found : r.progress.find? id = some g) (ready : g.state = .ready) (out : Outcome α)
    (draft : Draft α) :
    Ledger p (past ++ [⟨id, r.incoming id, out⟩]) log (deliveries p id out)
      { r with
        progress := r.progress.insert id { g with state := .done }
        draft, executions := r.executions + 1 } := by
  have before : r.state? id = some .ready := (state?_eq found).trans (congrArg some ready)
  have after (j : String) : (Run.state? { r with
      progress := r.progress.insert id { g with state := .done }
      draft, executions := r.executions + 1 } j) =
        if id = j then some .done else r.state? j := by
    unfold state?
    rw [Table.find?_insert]
    split <;> rfl
  have new : id ∉ past.map Execution.id := by
    rw [← books.done, before]
    simp
  have unlike {s : NodeState} (started : s ≠ .ready) (undone : s ≠ .done) (j : String) :
      (if id = j then some NodeState.done else r.state? j) = some s ↔ r.state? j = some s := by
    split
    next same => subst same; simp [before, started.symm, undone.symm]
    next => rfl
  refine {
    keys := (Table.keys_insert_of_find? found _).trans books.keys
    accounts := ?_
    once := ?_
    done := fun j => ?_
    calm := fun j => ?_
    executions := by simp [books.executions]
    edges := ?_
    carried := ?_
    prunedOnce := books.prunedOnce
    pruned := fun j => by
      rw [after, unlike (by simp) (by simp)]
      exact books.pruned j
    winnersOnce := books.winnersOnce
    winners := books.winners }
  · intro j g' now
    rw [Table.find?_insert] at now
    split at now
    next same =>
      subst same
      cases now
      have kept := books.accounts _ _ found
      refine ⟨kept.unsettled, kept.arrivals, ?_, ?_⟩
      · rw [← kept.pending, ready]; simp
      · rw [← kept.pruned, ready]; simp
    next => exact books.accounts j g' now
  · rw [List.map_append]
    exact nodup_snoc books.once new
  · rw [after, List.map_append, List.mem_append, ← books.done]
    by_cases same : id = j
    · simp [same]
    · simp [same, Ne.symm same]
  · rw [after, ne_eq, ne_eq, unlike (by simp) (by simp), unlike (by simp) (by simp)]
    exact books.calm j
  · have unfinished : r.finished id = false := by simp [finished, before]
    refine .trans ?_ (edges_of_finish unfinished fun j => ?_).symm
    · rw [List.map_append, map_fst_deliveries]
      exact .append_right _ (by simpa using books.edges)
    · unfold finished
      rw [after]
      by_cases same : id = j
      · simp [same]
      · simp [same, Ne.symm same]
  · rw [sent_append, sent_singleton, ← books.carried, carried_append]
    simp

end

variable {σ : Type} [Scalar α] [Source σ α] {input : Input σ α}

/-- Every state that a run comes to has a ledger in which all is settled. -/
theorem Reaches.ledger (closed : input.plan.Closed) {past : List (Execution α)} {r : Run α}
    (reached : Reaches input past r) : ∃ log, Ledger input.plan past log [] r := by
  induction reached with
  | initial => exact ⟨[], ledger_initial _⟩
  | @step past r r' r'' id n out _ next node worked settled ih =>
    obtain ⟨log, books⟩ := ih
    obtain ⟨g, found, ready, _⟩ := books.of_next? closed next
    obtain ⟨_, rfl⟩ := Graph.mem_of_node? node
    obtain ⟨site, _, rfl⟩ := performed found worked
    obtain ⟨log', books'⟩ := (books.perform found ready out site.draft).settles closed.linked
      (settles_of_settleAll settled)
    exact ⟨log ++ log', books'⟩

end Dungeon.Run
