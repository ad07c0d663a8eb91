import Dungeon.Proofs.Run.Account

/-!
# The ledger of a run

The ledger ties a state of a run to the executions that led to it and to the log of the deliveries
that have been settled. Settling one edge keeps it. Nothing here needs a valid graph: edges that lead
from nodes to nodes are enough.
-/

namespace Dungeon

variable {α : Type}

/-- Every edge leads from a node to an input port of a node. -/
structure Plan.Closed (p : Plan α) : Prop where
  distinct : p.graph.nodeIds.Nodup
  sources : ∀ e ∈ p.graph.edges, e.source.node ∈ p.graph.nodeIds
  targets : ∀ e ∈ p.graph.edges, e.target.node ∈ p.graph.nodeIds
  ports : ∀ e ∈ p.graph.edges, ∃ i, p.inputIndex? e.target = some i

/-- Every edge leads from a node to a node, be it to a port or not. -/
structure Plan.Linked (p : Plan α) : Prop where
  distinct : p.graph.nodeIds.Nodup
  sources : ∀ e ∈ p.graph.edges, e.source.node ∈ p.graph.nodeIds
  targets : ∀ e ∈ p.graph.edges, e.target.node ∈ p.graph.nodeIds

theorem Plan.Closed.linked {p : Plan α} (closed : p.Closed) : p.Linked where
  distinct := closed.distinct
  sources := closed.sources
  targets := closed.targets

theorem filter_or_perm {β : Type} {p q : β → Bool} {xs : List β}
    (apart : ∀ x ∈ xs, p x = true → q x = false) :
    (xs.filter fun x => p x || q x).Perm (xs.filter p ++ xs.filter q) := by
  induction xs with
  | nil => exact .refl _
  | cons x rest ih =>
    have rest_apart := ih fun y hy => apart y (List.mem_cons_of_mem _ hy)
    cases hp : p x with
    | true =>
      have hq := apart x List.mem_cons_self hp
      simpa [hp, hq] using rest_apart
    | false =>
      cases hq : q x with
      | true => simpa [hp, hq] using (rest_apart.cons x).trans List.perm_middle.symm
      | false => simpa [hp, hq] using rest_apart

namespace Run

/-- The node has run or was pruned; it settles its edges and changes no more. -/
def finished (r : Run α) (id : String) : Bool :=
  r.state? id = some .done || r.state? id = some .pruned

structure Ledger (p : Plan α) (past : List (Execution α)) (log work : List (Delivery α))
    (r : Run α) : Prop where
  keys : r.progress.keys = p.graph.nodeIds
  accounts : ∀ id g, r.progress.find? id = some g → Accounted p log id g
  once : (past.map Execution.id).Nodup
  done : ∀ id, r.state? id = some .done ↔ id ∈ past.map Execution.id
  calm : ∀ id, r.state? id ≠ some .executing ∧ r.state? id ≠ some .failed
  executions : r.executions = past.length
  /-- The edges of finished nodes, and no others, are settled or about to be, each of them once. -/
  edges : ((log ++ work).map Prod.fst).Perm
    (p.graph.edges.filter fun e => r.finished e.source.node)
  carried : carried (log ++ work) = sent p past
  prunedOnce : r.pruned.Nodup
  pruned : ∀ id, id ∈ r.pruned ↔ r.state? id = some .pruned
  winnersOnce : r.winners.keys.Nodup
  /-- The source of the first fragment wins at a merge that takes the first path. -/
  winners : ∀ id, r.winners.find? id =
    if p.strategy? id = some .first then (sentTo log id).head?.map (·.1.source.node) else none

namespace Ledger

variable {p : Plan α} {past : List (Execution α)} {log work : List (Delivery α)} {r : Run α}

/-- An edge that is about to be settled is an edge of the graph. -/
theorem mem_edges {d : Delivery α} (books : Ledger p past log (d :: work) r) :
    d.1 ∈ p.graph.edges := by
  have member : d.1 ∈ (log ++ d :: work).map Prod.fst := by simp
  exact (List.mem_filter.1 (books.edges.mem_iff.1 member)).1

/-- No more edges to a node are settled or about to be than lead there. -/
theorem settledTo_add_le (books : Ledger p past log work r) (id : String) :
    settledTo log id + settledTo work id ≤ p.inDegree id := by
  have counted := books.edges.countP_eq fun e => e.target.node == id
  have within : (p.graph.edges.filter fun e => r.finished e.source.node).countP
      (fun e => e.target.node == id) ≤ p.inDegree id := List.filter_sublist.countP_le
  have both : ((log ++ work).map Prod.fst).countP (fun e => e.target.node == id) =
      settledTo log id + settledTo work id := List.countP_map.trans List.countP_append
  omega

/-- Before an edge is settled its target has an open edge. -/
theorem settledTo_lt {d : Delivery α} (books : Ledger p past log (d :: work) r) :
    settledTo log d.1.target.node < p.inDegree d.1.target.node := by
  have within := books.settledTo_add_le d.1.target.node
  rw [settledTo, settledTo, List.countP_cons_of_pos (by simp)] at within
  rw [settledTo]
  omega

/-- No more edges can be settled than there are. -/
theorem length_le (books : Ledger p past log work r) :
    log.length + work.length ≤ p.graph.edges.length := by
  have counted := books.edges.length_eq
  have within := List.length_filter_le (fun e => r.finished e.source.node) p.graph.edges
  simp only [List.length_map, List.length_append] at counted
  omega

theorem find?_of_mem (books : Ledger p past log work r) {id : String}
    (h : id ∈ p.graph.nodeIds) : ∃ g, r.progress.find? id = some g := by
  rw [← books.keys] at h
  exact Table.mem_keys_iff.1 h

theorem mem_nodeIds (books : Ledger p past log work r) {id : String} {g : Progress α}
    (found : r.progress.find? id = some g) : id ∈ p.graph.nodeIds :=
  books.keys ▸ Table.mem_keys_iff.2 ⟨g, found⟩

/-- What runs next is a node that is ready. -/
theorem of_next? (closed : p.Closed) (books : Ledger p past log work r) {id : String}
    (next : r.next? = some id) :
    ∃ g, r.progress.find? id = some g ∧ g.state = .ready ∧ id ∈ p.graph.nodeIds := by
  obtain ⟨g, found, ready⟩ := ready_of_next? (books.keys ▸ closed.distinct) next
  exact ⟨g, found, ready, books.mem_nodeIds found⟩

end Ledger

section
variable {p : Plan α} {r r' : Run α} {e : Edge α} {g : Progress α} {f : Option (Fragment α)}
  {log work more : List (Delivery α)}

theorem state?_account (r : Run α) (e : Edge α) (g : Progress α) (s : NodeState)
    (as : List (Arrival α)) (id : String) :
    (r.account e g s as).state? id = if e.target.node = id then some s else r.state? id := by
  unfold state?
  rw [find?_account]
  split <;> rfl

theorem keys_account (found : r.progress.find? e.target.node = some g) (s : NodeState)
    (as : List (Arrival α)) : (r.account e g s as).progress.keys = r.progress.keys :=
  Table.keys_insert_of_find? found _

/-- Settling an edge changes at most its target, and only from waiting to ready or pruned. -/
theorem Settled.state? (step : Settled p r e g f r' more)
    (found : r.progress.find? e.target.node = some g) (id : String) :
    r'.state? id = r.state? id ∨ (id = e.target.node ∧ r.state? id = some .pending ∧
      (r'.state? id = some .ready ∨ r'.state? id = some .pruned)) := by
  by_cases same : e.target.node = id
  · subst same
    have before := state?_eq found
    cases step with
    | late f late => left; rw [state?_account, if_pos rfl, before]
    | early x waits early =>
      right; exact ⟨rfl, waits ▸ before, .inl ((state?_account ..).trans (if_pos rfl))⟩
    | waiting f waits quiet open_ => left; rw [state?_account, if_pos rfl, before, waits]
    | ready f waits quiet last landed =>
      right; exact ⟨rfl, waits ▸ before, .inl ((state?_account ..).trans (if_pos rfl))⟩
    | pruned waits last nothing =>
      right; exact ⟨rfl, waits ▸ before, .inr ((state?_account ..).trans (if_pos rfl))⟩
  · left
    cases step with
    | late | waiting | ready => rw [state?_account, if_neg same]
    | early => exact (state?_account ..).trans (if_neg same)
    | pruned => exact (state?_account ..).trans (if_neg same)

theorem Settled.find?_of_ne (step : Settled p r e g f r' more) {id : String}
    (other : e.target.node ≠ id) : r'.progress.find? id = r.progress.find? id := by
  cases step with
  | late | waiting | ready => rw [find?_account, if_neg other]
  | early => exact (find?_account ..).trans (if_neg other)
  | pruned => exact (find?_account ..).trans (if_neg other)

theorem Settled.keys (step : Settled p r e g f r' more)
    (found : r.progress.find? e.target.node = some g) :
    r'.progress.keys = r.progress.keys := by
  cases step <;> exact keys_account found _ _

theorem Settled.executions (step : Settled p r e g f r' more) : r'.executions = r.executions := by
  cases step <;> rfl

theorem Settled.carried (step : Settled p r e g f r' more) : carried more = [] := by
  cases step with
  | late | early | waiting | ready => rfl
  | pruned => exact carried_none _

/-- A state other than waiting, ready and pruned neither comes nor goes. -/
theorem Settled.state?_iff (step : Settled p r e g f r' more)
    (found : r.progress.find? e.target.node = some g) {s : NodeState} (active : s ≠ .pending)
    (started : s ≠ .ready) (alive : s ≠ .pruned) (id : String) :
    r'.state? id = some s ↔ r.state? id = some s := by
  rcases step.state? found id with same | ⟨_, before, now | now⟩
  · rw [same]
  · simp [before, now, active.symm, started.symm]
  · simp [before, now, active.symm, alive.symm]

/-- When one more node is finished, the edges that leave it come to those of finished nodes. -/
theorem edges_of_finish {id : String} (before : r.finished id = false)
    (after : ∀ j, r'.finished j = (r.finished j || j == id)) :
    (p.graph.edges.filter fun e => r'.finished e.source.node).Perm
      ((p.graph.edges.filter fun e => r.finished e.source.node) ++ p.outgoing id) := by
  simp only [after]
  refine (filter_or_perm ?_).trans (.append_left _ (sortBy_perm _ _).symm)
  intro e _ old
  by_cases same : e.source.node = id
  · rw [same, before] at old
    cases old
  · simpa using same

theorem finished_account (r : Run α) (e : Edge α) (g : Progress α) (s : NodeState)
    (as : List (Arrival α)) (id : String) :
    (r.account e g s as).finished id =
      if e.target.node = id then (s = .done || s = .pruned : Bool) else r.finished id := by
  unfold finished
  rw [state?_account]
  split <;> simp

/-- Settling an edge finishes its target, which then passes that on, or it finishes no node. -/
theorem Settled.finished (step : Settled p r e g f r' more)
    (found : r.progress.find? e.target.node = some g) :
    (more = [] ∧ ∀ id, r'.finished id = r.finished id) ∨
      (more = (p.outgoing e.target.node).map (fun e => (e, none)) ∧
        r.finished e.target.node = false ∧
        ∀ id, r'.finished id = (r.finished id || id == e.target.node)) := by
  have before : r.finished e.target.node = (g.state = .done || g.state = .pruned : Bool) := by
    simp [Run.finished, state?_eq found]
  have unfinished (waits : g.state = .pending) : r.finished e.target.node = false := by
    simp [before, waits]
  have kept (s : NodeState) (as : List (Arrival α)) (id : String)
      (same : (s = .done || s = .pruned : Bool) = r.finished e.target.node) :
      (r.account e g s as).finished id = r.finished id := by
    rw [finished_account, same]
    split
    next h => rw [h]
    next => rfl
  cases step with
  | late f late => exact .inl ⟨rfl, fun id => kept _ _ id before.symm⟩
  | early x waits early => exact .inl ⟨rfl, fun id => kept _ _ id (unfinished waits).symm⟩
  | waiting f waits quiet open_ => exact .inl ⟨rfl, fun id => kept _ _ id (unfinished waits).symm⟩
  | ready f waits quiet last landed =>
    exact .inl ⟨rfl, fun id => kept _ _ id (unfinished waits).symm⟩
  | pruned waits last nothing =>
    refine .inr ⟨rfl, unfinished waits, fun id => (finished_account ..).trans ?_⟩
    by_cases h : e.target.node = id
    · simp [h]
    · simp [h, Ne.symm h]

theorem Settled.edges (step : Settled p r e g f r' more)
    (found : r.progress.find? e.target.node = some g)
    (old : ((log ++ (e, f) :: work).map Prod.fst).Perm
      (p.graph.edges.filter fun e => r.finished e.source.node)) :
    (((log ++ [(e, f)]) ++ (more ++ work)).map Prod.fst).Perm
      (p.graph.edges.filter fun e => r'.finished e.source.node) := by
  rcases step.finished found with ⟨rfl, same⟩ | ⟨rfl, before, after⟩
  · simpa only [same, List.append_assoc, List.singleton_append, List.nil_append] using old
  · refine .trans ?_ (edges_of_finish before after).symm
    refine .trans ?_ (old.append_right _)
    simp only [List.map_append, List.map_cons, List.map_map, Function.comp_def, List.map_id',
      List.append_assoc, List.cons_append, List.nil_append]
    exact .append_left _ (.cons _ List.perm_append_comm)

theorem firesEarly_of_first {id : String} (h : p.strategy? id = some .first) :
    p.firesEarly id = true := by
  simp [Plan.firesEarly, h]

theorem Settled.nodup_winners (step : Settled p r e g f r' more) (once : r.winners.keys.Nodup) :
    r'.winners.keys.Nodup := by
  cases step with
  | early =>
    dsimp only
    split
    · exact Table.nodup_keys_insert once _ _
    · exact once
  | late | waiting | ready | pruned => exact once

theorem Settled.winners (step : Settled p r e g f r' more)
    (kept : Accounted p log e.target.node g)
    (bound : settledTo log e.target.node < p.inDegree e.target.node)
    (old : ∀ id, r.winners.find? id = if p.strategy? id = some .first
      then (sentTo log id).head?.map (·.1.source.node) else none) (id : String) :
    r'.winners.find? id = if p.strategy? id = some .first
      then (sentTo (log ++ [(e, f)]) id).head?.map (·.1.source.node) else none := by
  by_cases same : e.target.node = id
  · subst same
    rw [sentTo_snoc]
    -- Unless an early merge starts, what was sent first stays so, or nothing is sent to a first merge.
    have unchanged (h : p.strategy? e.target.node = some .first →
        sentTo log e.target.node ≠ [] ∨ f = none) :
        r.winners.find? e.target.node = if p.strategy? e.target.node = some .first
          then (sentTo log e.target.node ++ (f.map fun f => (e, f)).toList).head?.map
            (·.1.source.node) else none := by
      rw [old]
      split
      next first =>
        rcases h first with some_sent | rfl
        · obtain ⟨s, rest, sent⟩ := List.exists_cons_of_ne_nil some_sent
          rw [sent]
          rfl
        · simp
      next => rfl
    have quiet_first (quiet : f.isSome → p.firesEarly e.target.node = false)
        (first : p.strategy? e.target.node = some .first) : f = none := by
      cases f with
      | none => rfl
      | some x => exact absurd (firesEarly_of_first first) (by simp [quiet])
    cases step with
    | late f late =>
      exact unchanged fun _ => .inl fun none_sent =>
        late (kept.pending.2 ⟨bound, fun _ => none_sent⟩)
    | early x waits early =>
      rw [(kept.pending.1 waits).2 early]
      by_cases first : p.strategy? e.target.node = some .first
      · simp [first, Table.find?_insert]
      · simp [first, old]
    | waiting f waits quiet open_ => exact unchanged fun first => .inr (quiet_first quiet first)
    | ready f waits quiet last landed => exact unchanged fun first => .inr (quiet_first quiet first)
    | pruned => exact unchanged fun _ => .inr rfl
  · rw [sentTo_snoc_of_ne log same f, ← old]
    cases step with
    | early =>
      dsimp only
      split
      · rw [Table.find?_insert, if_neg same]
      · rfl
    | late | waiting | ready | pruned => rfl

/-- Only the target of an edge can be pruned when the edge is settled. -/
theorem Settled.pruned_list (step : Settled p r e g f r' more)
    (found : r.progress.find? e.target.node = some g)
    (once : r.pruned.Nodup) (old : ∀ id, id ∈ r.pruned ↔ r.state? id = some .pruned) :
    r'.pruned.Nodup ∧ ∀ id, id ∈ r'.pruned ↔ r'.state? id = some .pruned := by
  have before := state?_eq found
  have kept (s : NodeState) (as : List (Arrival α)) (same : s = .pruned ↔ g.state = .pruned)
      (id : String) : id ∈ r.pruned ↔ (r.account e g s as).state? id = some .pruned := by
    rw [old, state?_account]
    split
    next h => rw [← h, before]; simp [same]
    next => rfl
  cases step with
  | late f late => exact ⟨once, kept _ _ .rfl⟩
  | early x waits early => exact ⟨once, kept _ _ (by simp [waits])⟩
  | waiting f waits quiet open_ => exact ⟨once, kept _ _ (by simp [waits])⟩
  | ready f waits quiet last landed => exact ⟨once, kept _ _ (by simp [waits])⟩
  | pruned waits last nothing =>
    have fresh : e.target.node ∉ r.pruned := by simp [old, before, waits]
    refine ⟨nodup_snoc once fresh, fun id => ?_⟩
    refine .trans ?_ (iff_of_eq (congrArg (· = some NodeState.pruned) (state?_account ..))).symm
    by_cases h : e.target.node = id
    · simp [h]
    · simp [h, Ne.symm h, old]

/-- Settling one edge keeps the ledger. -/
theorem Ledger.settle {past : List (Execution α)} (linked : p.Linked)
    (books : Ledger p past log ((e, f) :: work) r) (h : r.settle p (e, f) = .ok (r', more)) :
    Ledger p past (log ++ [(e, f)]) (more ++ work) r' := by
  obtain ⟨g, found⟩ := books.find?_of_mem (linked.targets e books.mem_edges)
  have step := settled_of_settle found h
  have kept := books.accounts _ _ found
  have bound : settledTo log e.target.node < p.inDegree e.target.node := books.settledTo_lt
  obtain ⟨prunedOnce, pruned⟩ := step.pruned_list found books.prunedOnce books.pruned
  exact {
    keys := (step.keys found).trans books.keys
    accounts := by
      intro id g' now
      by_cases same : e.target.node = id
      · subst same
        obtain ⟨g'', now', kept'⟩ := step.accounted kept bound
        rwa [Option.some.inj (now.symm.trans now')]
      · rw [step.find?_of_ne same] at now
        exact (books.accounts id g' now).of_ne same f
    once := books.once
    done := fun id =>
      (step.state?_iff found (by simp) (by simp) (by simp) id).trans (books.done id)
    calm := fun id => by
      rw [ne_eq, ne_eq, step.state?_iff found (by simp) (by simp) (by simp),
        step.state?_iff found (by simp) (by simp) (by simp)]
      exact books.calm id
    executions := step.executions.trans books.executions
    edges := step.edges found books.edges
    carried := by
      rw [← books.carried]
      simp [step.carried]
    prunedOnce
    pruned
    winnersOnce := step.nodup_winners books.winnersOnce
    winners := step.winners kept bound books.winners }

end

end Run

end Dungeon
