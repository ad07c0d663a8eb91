import Dungeon.Proofs.Table
import Dungeon.Run.Execute

/-!
# What settling one edge can do

`Settled` lists the five things that happen when an edge is settled: its target no longer waits, an
early merge starts, the target goes on waiting, it becomes ready, or it is pruned and passes that
on. Everything about runs rests on this list and never on the text of `Run.settle`.
-/

namespace Dungeon

namespace Table

variable {κ β : Type} [DecidableEq κ]

theorem put_put (k : κ) (v w : β) (pairs : List (κ × β)) : put k w (put k v pairs) = put k w pairs := by
  induction pairs with
  | nil => simp [put]
  | cons p rest ih =>
    by_cases h : p.1 = k <;> simp [put, h, ih]

@[simp] theorem insert_insert (t : Table κ β) (k : κ) (v w : β) :
    (t.insert k v).insert k w = t.insert k w := by
  simp [insert, put_put]

end Table

namespace Run

variable {α : Type}

/-- What arrives when a fragment has come along an edge. -/
def arrivalOf (p : Plan α) (s : Edge α × Fragment α) : Arrival α :=
  ⟨(p.inputIndex? s.1.target).getD 0, s.1.id, s.1.source.node, s.2⟩

/-- The arrivals at a waiting node after an edge has been settled. -/
def landed (p : Plan α) (g : Progress α) (e : Edge α) (f : Option (Fragment α)) :
    List (Arrival α) :=
  g.arrivals ++ (f.map fun f => arrivalOf p (e, f)).toList

/-- One more edge to a node is settled. -/
def account (r : Run α) (e : Edge α) (g : Progress α) (state : NodeState)
    (arrivals : List (Arrival α)) : Run α :=
  { r with progress := r.progress.insert e.target.node ⟨state, g.unsettled - 1, arrivals⟩ }

inductive Settled (p : Plan α) (r : Run α) (e : Edge α) (g : Progress α) :
    Option (Fragment α) → Run α → List (Delivery α) → Prop
  | late (f : Option (Fragment α)) : g.state ≠ .pending →
      Settled p r e g f (r.account e g g.state g.arrivals) []
  | early (x : Fragment α) : g.state = .pending → p.firesEarly e.target.node = true →
      Settled p r e g (some x)
        { r.account e g .ready (landed p g e (some x)) with
          winners := if p.strategy? e.target.node = some .first
            then r.winners.insert e.target.node e.source.node else r.winners } []
  | waiting (f : Option (Fragment α)) : g.state = .pending →
      (f.isSome → p.firesEarly e.target.node = false) → g.unsettled ≠ 1 →
      Settled p r e g f (r.account e g .pending (landed p g e f)) []
  | ready (f : Option (Fragment α)) : g.state = .pending →
      (f.isSome → p.firesEarly e.target.node = false) → g.unsettled = 1 →
      landed p g e f ≠ [] →
      Settled p r e g f (r.account e g .ready (landed p g e f)) []
  | pruned : g.state = .pending → g.unsettled = 1 → g.arrivals = [] →
      Settled p r e g none
        { r.account e g .pruned [] with pruned := r.pruned ++ [e.target.node] }
        ((p.outgoing e.target.node).map fun e => (e, none))

theorem update_eq {r : Run α} {id : String} {g : Progress α}
    (found : r.progress.find? id = some g) (f : Progress α → Progress α) :
    r.update id f = { r with progress := r.progress.insert id (f g) } := by
  rw [update, found]

theorem state?_eq {r : Run α} {id : String} {g : Progress α}
    (found : r.progress.find? id = some g) : r.state? id = some g.state := by
  rw [state?, found, Option.map_some]

theorem find?_account (r : Run α) (e : Edge α) (g : Progress α) (s : NodeState)
    (as : List (Arrival α)) (id : String) :
    (r.account e g s as).progress.find? id =
      if e.target.node = id then some ⟨s, g.unsettled - 1, as⟩ else r.progress.find? id :=
  Table.find?_insert ..

theorem find?_account_self (r : Run α) (e : Edge α) (g : Progress α) (s : NodeState)
    (as : List (Arrival α)) :
    (r.account e g s as).progress.find? e.target.node = some ⟨s, g.unsettled - 1, as⟩ := by
  rw [find?_account, if_pos rfl]

theorem setState_account (r : Run α) (e : Edge α) (g : Progress α) (s t : NodeState)
    (as : List (Arrival α)) :
    (r.account e g s as).setState e.target.node t = r.account e g t as := by
  rw [setState, update_eq (find?_account_self r e g s as)]
  simp only [account, Table.insert_insert]

theorem update_account (r : Run α) (e : Edge α) (g : Progress α) (s : NodeState)
    (as more : List (Arrival α)) :
    ((r.account e g s as).update e.target.node fun g => { g with arrivals := g.arrivals ++ more }) =
      r.account e g s (as ++ more) := by
  rw [update_eq (find?_account_self r e g s as)]
  simp only [account, Table.insert_insert]

/-- Completing a node that waits, with the count of the settled edge already taken off. -/
theorem complete_account (p : Plan α) (r : Run α) (e : Edge α) (g : Progress α)
    (as : List (Arrival α)) :
    (r.account e g .pending as).complete p e.target.node =
      if g.unsettled = 1 then
        if as = [] then
          ({ r.account e g .pruned as with pruned := r.pruned ++ [e.target.node] },
            (p.outgoing e.target.node).map fun e => (e, none))
        else (r.account e g .ready as, [])
      else (r.account e g .pending as, []) := by
  have zero : g.unsettled - 1 = 0 ↔ g.unsettled = 1 := by omega
  simp only [complete, find?_account_self, zero, List.isEmpty_iff, prune, setState_account]
  rfl

theorem settled_of_complete {p : Plan α} {r : Run α} {e : Edge α} {g : Progress α}
    {f : Option (Fragment α)} (pending : g.state = .pending)
    (late : f.isSome → p.firesEarly e.target.node = false) :
    Settled p r e g f ((r.account e g .pending (landed p g e f)).complete p e.target.node).1
      ((r.account e g .pending (landed p g e f)).complete p e.target.node).2 := by
  rw [complete_account]
  split
  next last =>
    split
    next nothing =>
      obtain ⟨none_before, none_now⟩ := List.append_eq_nil_iff.1 nothing
      have empty : f = none := by
        cases f with
        | none => rfl
        | some x => simp at none_now
      subst empty
      rw [nothing]
      exact .pruned pending last none_before
    next some_landed => exact .ready f pending late last some_landed
  next open_ => exact .waiting f pending late open_

theorem settled_of_settle {p : Plan α} {r r' : Run α} {e : Edge α} {f : Option (Fragment α)}
    {g : Progress α} {more : List (Delivery α)}
    (found : r.progress.find? e.target.node = some g)
    (h : r.settle p (e, f) = .ok (r', more)) : Settled p r e g f r' more := by
  have first : (r.update e.target.node fun g => { g with unsettled := g.unsettled - 1 }) =
      r.account e g g.state g.arrivals := update_eq found _
  have state : (r.account e g g.state g.arrivals).state? e.target.node = some g.state := by
    rw [state?_eq (find?_account_self ..)]
  simp only [settle, first, state, ne_eq, Option.some.injEq] at h
  by_cases pending : g.state = .pending
  · rw [if_neg (by simpa using pending), pending] at h
    cases f with
    | none =>
      have nothing : landed p g e none = g.arrivals := by simp [landed]
      have result := Except.ok.inj h
      have completed := settled_of_complete (p := p) (r := r) (e := e) (f := none) pending (by simp)
      rw [nothing, result] at completed
      exact completed
    | some x =>
      cases port : p.inputIndex? e.target with
      | none => simp [arrive, port, bind, Except.bind] at h
      | some i =>
        have arrived : (r.account e g .pending g.arrivals).arrive p e x =
            .ok (r.account e g .pending (landed p g e (some x))) := by
          simp only [arrive, port, update_account, landed, arrivalOf, Option.map_some,
            Option.toList_some, Option.getD_some]
        simp only [arrived, bind, Except.bind] at h
        by_cases early : p.firesEarly e.target.node = true
        · rw [if_pos early] at h
          cases h
          simp only [fire, setState_account]
          exact .early x pending early
        · rw [if_neg early] at h
          have result := Except.ok.inj h
          have completed := settled_of_complete (p := p) (r := r) (e := e) (f := some x) pending
            fun _ => by simpa using early
          rw [result] at completed
          exact completed
  · rw [if_pos (by simpa using pending)] at h
    cases h
    exact .late f pending

/-- Settling fails only where a fragment comes to a port that its node does not have. -/
theorem settle_succeeds {p : Plan α} (r : Run α) {e : Edge α} (f : Option (Fragment α))
    (port : ∃ i, p.inputIndex? e.target = some i) : ∃ out, r.settle p (e, f) = .ok out := by
  obtain ⟨i, port⟩ := port
  simp only [settle, arrive, port]
  split
  next => exact ⟨_, rfl⟩
  next =>
    cases f with
    | none => exact ⟨_, rfl⟩
    | some x => exact ⟨_, (apply_ite Except.ok _ _ _).symm⟩

end Run

end Dungeon
