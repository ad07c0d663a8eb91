import Dungeon.Proofs.Run.Trace

/-!
# The account of a node

What a node has counted and kept is decided by the log of the deliveries that have been settled:
how many of them lead to the node, and which of those carried a fragment. `Accounted` says so for one
node, and each of the five ways of settling an edge keeps it.
-/

namespace Dungeon

variable {α : Type}

/-- Which of the fragments sent to a node it takes: the first one at an early merge, else all. -/
def Plan.admits {β : Type} (p : Plan α) (id : String) (sent : List β) : List β :=
  if p.firesEarly id then sent.take 1 else sent

namespace Plan

variable {β : Type} (p : Plan α) (id : String)

theorem admits_early {id : String} (early : p.firesEarly id = true) (xs : List β) :
    p.admits id xs = xs.take 1 := if_pos early

theorem admits_late {id : String} (late : p.firesEarly id = false) (xs : List β) :
    p.admits id xs = xs := by
  rw [admits, late]
  rfl

@[simp] theorem admits_nil : p.admits id ([] : List β) = [] := by
  unfold admits
  split <;> rfl

theorem admits_eq_nil {xs : List β} : p.admits id xs = [] ↔ xs = [] := by
  unfold admits
  split <;> simp

theorem admits_subset (xs : List β) : p.admits id xs ⊆ xs := by
  unfold admits
  split
  · exact List.take_subset 1 xs
  · exact List.Subset.refl xs

end Plan

namespace Run

/-- How many of the settled edges lead to a node. -/
def settledTo (log : List (Delivery α)) (id : String) : Nat :=
  log.countP fun d => d.1.target.node == id

/-- The fragments that came to a node along the settled edges. -/
def sentTo (log : List (Delivery α)) (id : String) : List (Edge α × Fragment α) :=
  (carried log).filter fun s => s.1.target.node == id

/-- Some edge to the node is open, and the node needs it. -/
def Waiting (p : Plan α) (log : List (Delivery α)) (id : String) : Prop :=
  settledTo log id < p.inDegree id ∧ (p.firesEarly id = true → sentTo log id = [])

/-- All edges to the node are settled, and none of them brought a fragment. -/
def Starved (p : Plan α) (log : List (Delivery α)) (id : String) : Prop :=
  settledTo log id = p.inDegree id ∧ p.inDegree id ≠ 0 ∧ sentTo log id = []

structure Accounted (p : Plan α) (log : List (Delivery α)) (id : String) (g : Progress α) :
    Prop where
  unsettled : g.unsettled = (p.inDegree id : Int) - settledTo log id
  arrivals : g.arrivals = (p.admits id (sentTo log id)).map (arrivalOf p)
  pending : g.state = .pending ↔ Waiting p log id
  pruned : g.state = .pruned ↔ Starved p log id

theorem settledTo_snoc (log : List (Delivery α)) (e : Edge α) (f : Option (Fragment α)) :
    settledTo (log ++ [(e, f)]) e.target.node = settledTo log e.target.node + 1 := by
  simp [settledTo]

theorem sentTo_snoc (log : List (Delivery α)) (e : Edge α) (f : Option (Fragment α)) :
    sentTo (log ++ [(e, f)]) e.target.node =
      sentTo log e.target.node ++ (f.map fun f => (e, f)).toList := by
  cases f <;> simp [sentTo]

theorem settledTo_snoc_of_ne (log : List (Delivery α)) {e : Edge α} {id : String}
    (h : e.target.node ≠ id) (f : Option (Fragment α)) :
    settledTo (log ++ [(e, f)]) id = settledTo log id := by
  simp [settledTo, h]

theorem sentTo_snoc_of_ne (log : List (Delivery α)) {e : Edge α} {id : String}
    (h : e.target.node ≠ id) (f : Option (Fragment α)) :
    sentTo (log ++ [(e, f)]) id = sentTo log id := by
  cases f <;> simp [sentTo, h]

/-- The account of a node does not depend on edges to other nodes. -/
theorem Accounted.of_ne {p : Plan α} {log : List (Delivery α)} {e : Edge α} {id : String}
    {g : Progress α} (kept : Accounted p log id g) (h : e.target.node ≠ id)
    (f : Option (Fragment α)) : Accounted p (log ++ [(e, f)]) id g := by
  have counted := settledTo_snoc_of_ne log h f
  have brought := sentTo_snoc_of_ne log h f
  refine ⟨?_, ?_, ?_, ?_⟩
  · rw [counted]; exact kept.unsettled
  · rw [brought]; exact kept.arrivals
  · rw [Waiting, counted, brought]; exact kept.pending
  · rw [Starved, counted, brought]; exact kept.pruned

/-- The arrivals at a waiting node follow the log: all fragments, or none yet at an early merge. -/
theorem Accounted.landed {p : Plan α} {log : List (Delivery α)} {e : Edge α} {g : Progress α}
    (kept : Accounted p log e.target.node g) (waits : g.state = .pending)
    (f : Option (Fragment α)) :
    landed p g e f =
      (p.admits e.target.node (sentTo (log ++ [(e, f)]) e.target.node)).map (arrivalOf p) := by
  have waiting := kept.pending.1 waits
  rw [Run.landed, kept.arrivals, sentTo_snoc]
  cases early : p.firesEarly e.target.node with
  | true =>
    rw [waiting.2 early, p.admits_early early, p.admits_early early]
    cases f <;> rfl
  | false =>
    rw [p.admits_late early, p.admits_late early, List.map_append]
    cases f <;> rfl

/-- Each way of settling an edge keeps the account of its target. -/
theorem Settled.accounted {p : Plan α} {r r' : Run α} {e : Edge α} {g : Progress α}
    {f : Option (Fragment α)} {more log : List (Delivery α)} (step : Settled p r e g f r' more)
    (kept : Accounted p log e.target.node g)
    (bound : settledTo log e.target.node < p.inDegree e.target.node) :
    ∃ g', r'.progress.find? e.target.node = some g' ∧
      Accounted p (log ++ [(e, f)]) e.target.node g' := by
  have counted := settledTo_snoc log e f
  have brought := sentTo_snoc log e f
  have unsettled := kept.unsettled
  have taken : g.unsettled - 1 =
      (p.inDegree e.target.node : Int) - settledTo (log ++ [(e, f)]) e.target.node := by omega
  cases step with
  | late f late =>
    -- What was not waiting with an open edge is an early merge that has had its fragment.
    have some_sent : sentTo log e.target.node ≠ [] := fun none_sent =>
      late (kept.pending.2 ⟨bound, fun _ => none_sent⟩)
    have early : p.firesEarly e.target.node = true := by
      by_cases h : p.firesEarly e.target.node = true
      · exact h
      · exact absurd (kept.pending.2 ⟨bound, fun k => absurd k h⟩) late
    have still : sentTo (log ++ [(e, f)]) e.target.node ≠ [] := by simp [brought, some_sent]
    refine ⟨_, find?_account_self .., taken, ?_, ?_, ?_⟩
    · obtain ⟨first, rest, sent⟩ := List.exists_cons_of_ne_nil some_sent
      rw [kept.arrivals, brought, p.admits_early early, p.admits_early early, sent]
      rfl
    · exact iff_of_false late fun waiting => still (waiting.2 early)
    · exact iff_of_false (fun pruned => some_sent (kept.pruned.1 pruned).2.2)
        fun starved => still starved.2.2
  | early x waits early =>
    have still : sentTo (log ++ [(e, some x)]) e.target.node ≠ [] := by simp [brought]
    refine ⟨_, find?_account_self .., taken, kept.landed waits (some x), ?_, ?_⟩
    · exact iff_of_false (by simp) fun waiting => still (waiting.2 early)
    · exact iff_of_false (by simp) fun starved => still starved.2.2
  | waiting f waits quiet open_ =>
    have waiting := kept.pending.1 waits
    refine ⟨_, find?_account_self .., taken, kept.landed waits f, ?_, ?_⟩
    · refine iff_of_true rfl ⟨by omega, fun early => ?_⟩
      cases f with
      | none => simpa [brought] using waiting.2 early
      | some x => simp [quiet] at early
    · refine iff_of_false (by simp) fun starved => ?_
      have full := starved.1
      omega
  | ready f waits quiet last some_landed =>
    refine ⟨_, find?_account_self .., taken, kept.landed waits f, ?_, ?_⟩
    · refine iff_of_false (by simp) fun waiting => ?_
      have open_ := waiting.1
      omega
    · refine iff_of_false (by simp) fun starved => some_landed ?_
      rw [kept.landed waits f, starved.2.2, p.admits_nil]
      rfl
  | pruned waits last nothing =>
    have unsent : sentTo log e.target.node = [] := by
      rw [kept.arrivals, List.map_eq_nil_iff] at nothing
      exact (p.admits_eq_nil e.target.node).1 nothing
    have still : sentTo (log ++ [(e, none)]) e.target.node = [] := by simp [brought, unsent]
    refine ⟨_, find?_account_self .., taken, by rw [still, p.admits_nil]; rfl, ?_, ?_⟩
    · refine iff_of_false (by simp) fun waiting => ?_
      have open_ := waiting.1
      omega
    · exact iff_of_true rfl ⟨by omega, by omega, still⟩

end Run

end Dungeon
