import Dungeon.Proofs.Run.Housing
import Dungeon.Proofs.Steady
import Dungeon.Proofs.Work.Retrying

/-!
# Chains that go straight on

A chain that does not branch puts each room ahead of the one before it. With exact numbers the first
place that is drawn for a room is then free, since no room reaches farther ahead than the last one, and
no place is tried again: however many retries there are, the chain does what it does without any.
-/

namespace Dungeon

open Exact

variable {σ α β γ : Type} [Scalar α]

namespace Rect

/-- The two rectangles share nothing but edges, whichever one is asked. -/
def Apart (r s : Rect α) : Prop := r.intersects s = false ∧ s.intersects r = false

variable [Exact α]

/-- How far along a heading a rectangle begins. -/
def back (d : Direction) (r : Rect α) : ℚ :=
  match d with
  | .right => value r.x
  | .down => value r.y
  | .left => -value r.right
  | .up => -value r.bottom

/-- How far along a heading a rectangle reaches. -/
def front (d : Direction) (r : Rect α) : ℚ :=
  match d with
  | .right => value r.right
  | .down => value r.bottom
  | .left => -value r.x
  | .up => -value r.y

theorem Solid.back_lt_front {r : Rect α} (solid : r.Solid) (d : Direction) : r.back d < r.front d := by
  have width := solid.width
  have height := solid.height
  cases d <;> simp only [back, front, value_right, value_bottom] <;> linarith

/-- A rectangle that begins where another one ends does not intersect it. -/
theorem apart_of_front_le {d : Direction} {r s : Rect α} (ahead : r.front d ≤ s.back d) :
    r.Apart s := by
  have not_lt {a b : α} (le : value b ≤ value a) : Scalar.lt a b = false :=
    Bool.eq_false_iff.2 fun less => le.not_gt ((lt_iff a b).1 less)
  cases d with
  | right => simp [Apart, intersects, not_lt ahead]
  | down => simp [Apart, intersects, not_lt ahead]
  | left => simp [Apart, intersects, not_lt (neg_le_neg_iff.1 ahead)]
  | up => simp [Apart, intersects, not_lt (neg_le_neg_iff.1 ahead)]

end Rect

namespace Placement

open Draw

variable [Exact α]

/-- A room beside another one begins a gap ahead of it, whatever it is moved sideways by. -/
theorem back_beside (ref : Rect α) (d : Direction) (gap shift width height : α) :
    (beside ref d gap shift width height).back d = ref.front d + value gap := by
  cases d <;> simp only [beside, Rect.back, Rect.front, Rect.value_right, Rect.value_bottom, value_add,
    value_sub] <;> ring

variable [Source σ α] (fractions : Source.Fractions (α := α) σ)
include fractions

/-- Every place that is drawn is ahead of the room that it is beside. -/
theorem gives_candidate (ref : Rect α) (d : Direction) (lateral width height : α) :
    Gives (candidate ref d lateral width height : Draw σ (Rect α)) fun b =>
      ref.front d < b.back d ∧ b.width = width ∧ b.height = height := by
  have gaps : value (gap.1 : α) ≤ value (gap.2 : α) := by
    simp only [gap, value_scientific]
    norm_num
  have shifts : value (-jitter : α) ≤ value (jitter : α) := by
    simp only [jitter, value_neg, value_scientific]
    norm_num
  unfold candidate
  refine .bind (gives_between fractions gaps) fun distance ⟨least, _⟩ => ?_
  refine .bind (gives_between fractions shifts) fun moved _ => .pure ⟨?_, ?_⟩
  · have positive : 0 < value distance := by
      refine lt_of_lt_of_le ?_ least
      simp only [gap, value_scientific]
      norm_num
    rw [back_beside]
    linarith
  · cases d <;> exact ⟨rfl, rfl⟩

/-- When no room reaches farther ahead than the one that is attached to, the first place is kept,
however often another one may be tried. -/
theorem placeBounds_of_ahead {ref : Rect α} {d : Direction} {placed : List (Rect α)}
    (ahead : ∀ r ∈ placed, r.front d ≤ ref.front d) (lateral width height : α) (s : σ) :
    ∃ b t, (∀ retries n, retries.toCount = .ok n →
        placeBounds ref d lateral width height placed retries s = .ok (b, false) t) ∧
      ref.front d < b.back d ∧ b.width = width ∧ b.height = height := by
  obtain ⟨b, t, drawn, beyond, sides⟩ := gives_candidate fractions ref d lateral width height s
  refine ⟨b, t, fun retries n count => ?_, beyond, sides⟩
  have free : overlaps b placed = false := by
    refine List.any_eq_false.2 fun r member => ?_
    rw [(Rect.apart_of_front_le ((ahead r member).trans beyond.le)).2]
    exact Bool.false_ne_true
  refine bind_eq_ok.2 ⟨b, t, drawn, bind_eq_ok.2 ⟨n, t, by rw [count]; rfl, ?_⟩⟩
  cases n.toNat with
  | zero =>
    rw [replace, free]
    rfl
  | succ m =>
    rw [replace, if_neg (by simp [free])]
    rfl

end Placement

namespace Draft

/-- The rooms do not intersect, and there are these warnings. -/
structure Clear (warnings : List String) (d : Draft α) : Prop where
  apart : d.rooms.Pairwise fun r s => r.bounds.Apart s.bounds
  warnings : d.warnings = warnings

omit [Scalar α] in
/-- The second draft has the rooms and the warnings of the first one. -/
structure SameRooms (d e : Draft α) : Prop where
  rooms : e.rooms = d.rooms
  warnings : e.warnings = d.warnings

omit [Scalar α] in
theorem SameRooms.ids {d e : Draft α} (same : d.SameRooms e) : e.ids = d.ids := by
  rw [Draft.ids, same.rooms, Draft.ids]

theorem Clear.of_same {warnings : List String} {d e : Draft α} (h : d.Clear warnings)
    (same : d.SameRooms e) : e.Clear warnings :=
  ⟨same.rooms ▸ h.apart, same.warnings.trans h.warnings⟩

/-- The room is there, and no room reaches farther along the heading. -/
def Leads [Exact α] (direction : Direction) (id : String) (d : Draft α) : Prop :=
  ∃ b, d.boundsOf id = .ok b ∧ ∀ r ∈ d.rooms, r.bounds.front direction ≤ b.front direction

/-- Nothing is ahead of the place that a room is attached to. -/
def Open [Exact α] (a : Attachment α) (d : Draft α) : Prop :=
  match a.anchor with
  | some id => d.Leads a.direction id
  | none => d.rooms = []

omit [Scalar α] in
theorem boundsOf_snoc {d e : Draft α} {r : Room α} (new : r.id ∉ d.ids)
    (rooms : e.rooms = d.rooms ++ [r]) : e.boundsOf r.id = .ok r.bounds := by
  have absent : d.rooms.find? (·.id == r.id) = none :=
    List.find?_eq_none.2 fun q member same => new ((beq_iff_eq.1 same) ▸ List.mem_map_of_mem member)
  have found : e.room? r.id = some r := by
    rw [room?, rooms, List.find?_append, absent]
    simp
  rw [boundsOf, found]

/-- A new room ahead of all others leads them. -/
theorem leads_snoc [Exact α] {d e : Draft α} {r : Room α} {direction : Direction} (new : r.id ∉ d.ids)
    (rooms : e.rooms = d.rooms ++ [r]) (solid : r.bounds.Solid)
    (ahead : ∀ q ∈ d.rooms, q.bounds.front direction ≤ r.bounds.back direction) :
    e.Leads direction r.id := by
  refine ⟨r.bounds, boundsOf_snoc new rooms, fun q member => ?_⟩
  rw [rooms] at member
  rcases List.mem_append.1 member with member | member
  · exact (ahead q member).trans (solid.back_lt_front direction).le
  · rw [List.mem_singleton.1 member]

theorem Leads.of_same [Exact α] {direction : Direction} {id : String} {d e : Draft α}
    (h : d.Leads direction id) (same : d.SameRooms e) : e.Leads direction id := by
  obtain ⟨b, there, farthest⟩ := h
  refine ⟨b, ?_, same.rooms ▸ farthest⟩
  rwa [boundsOf, room?, same.rooms]

end Draft

namespace Work

omit [Scalar α] in
theorem afterwards_bind {w : Work σ α β} {f : β → Work σ α γ} {R : Site σ α → Prop} {s : Site σ α}
    (failed : ∀ e t, w s = .error e t → R t)
    (went_on : ∀ v t, w s = .ok v t → R (afterwards (f v t))) : R (afterwards ((w >>= f) s)) := by
  show R (afterwards (EStateM.bind w f s))
  unfold EStateM.bind
  cases done : w s with
  | ok v t => exact went_on v t done
  | error e t => exact failed e t done

/-- Whether it succeeds or fails, the work leaves rooms and warnings as they are. -/
def Still (w : Work σ α β) : Prop := ∀ s : Site σ α, s.draft.SameRooms (afterwards (w s)).draft

namespace Still

variable {w : Work σ α β} {f : β → Work σ α γ}

omit [Scalar α]

theorem pure (v : β) : Still (pure v : Work σ α β) := fun _ => ⟨rfl, rfl⟩

theorem throw (e : Fault) : Still (throw e : Work σ α β) := fun _ => ⟨rfl, rfl⟩

theorem bind (first : Still w) (second : ∀ v, Still (f v)) : Still (w >>= f) := by
  intro s
  refine afterwards_bind (R := fun t => s.draft.SameRooms t.draft) ?_ ?_
  · intro e t failed
    have kept := first s
    rwa [failed] at kept
  · intro v t done
    have kept := first s
    rw [done] at kept
    have kept' := second v t
    exact ⟨kept'.rooms.trans kept.rooms, kept'.warnings.trans kept.warnings⟩

theorem ite {c : Prop} [Decidable c] {x y : Work σ α β} (yes : Still x) (no : Still y) :
    Still (if c then x else y) := by
  split
  · exact yes
  · exact no

theorem lift (x : Except Fault β) : Still (lift x : Work σ α β) := by
  cases x with
  | ok v => exact pure v
  | error e => exact throw e

theorem draw (x : Draw σ β) : Still (draw x : Work σ α β) := by
  intro s
  unfold Work.draw
  cases x s.stream <;> exact ⟨rfl, rfl⟩

theorem draft : Still (draft : Work σ α (Draft α)) := fun _ => ⟨rfl, rfl⟩

theorem boundsOf (id : String) : Still (boundsOf id : Work σ α (Rect α)) :=
  draft.bind fun d => lift (d.boundsOf id)

theorem connect (c : Connection α) :
    Still (Work.write fun d => d.connect c : Work σ α Unit) := fun _ => ⟨rfl, rfl⟩

theorem fail (j : Job α) (reason : String) : Still (j.fail reason : Work σ α β) := throw _

theorem failWith (j : Job α) (problems : List String) :
    Still (j.failWith problems : Work σ α Unit) := ite (pure ()) (fail j _)

end Still

/-- On this draft the two works do the same. Whether they succeed or fail, rooms do not intersect and
there are these warnings, and if they succeed, what they give and leave is related by `Q`. -/
def Accord (warnings : List String) (d : Draft α) (w w' : Work σ α β) (Q : β → Draft α → Prop) :
    Prop :=
  ∀ s : σ, w ⟨d, s⟩ = w' ⟨d, s⟩ ∧ (afterwards (w ⟨d, s⟩)).draft.Clear warnings ∧
    ∀ v t, w ⟨d, s⟩ = .ok v t → Q v t.draft

namespace Accord

variable {warnings : List String} {d : Draft α} {w w' : Work σ α β} {f f' : β → Work σ α γ}
  {P : β → Draft α → Prop} {Q : γ → Draft α → Prop}

theorem pure {v : β} (clear : d.Clear warnings) (h : P v d) :
    Accord warnings d (pure v : Work σ α β) (pure v) P := by
  refine fun s => ⟨rfl, clear, fun u t done => ?_⟩
  obtain ⟨rfl, rfl⟩ := pure_eq_ok.1 done
  exact h

theorem mono {P' : β → Draft α → Prop} (h : Accord warnings d w w' P)
    (weaker : ∀ v e, P v e → P' v e) : Accord warnings d w w' P' := fun s =>
  ⟨(h s).1, (h s).2.1, fun v t done => weaker v t.draft ((h s).2.2 v t done)⟩

theorem bind (first : Accord warnings d w w' P)
    (second : ∀ v e, e.Clear warnings → P v e → Accord warnings e (f v) (f' v) Q) :
    Accord warnings d (w >>= f) (w' >>= f') Q := by
  intro s
  obtain ⟨same, clear, post⟩ := first s
  have next {v : β} {t : Site σ α} (done : w ⟨d, s⟩ = .ok v t) :
      Accord warnings t.draft (f v) (f' v) Q := by
    refine second v t.draft ?_ (post v t done)
    rwa [done] at clear
  refine ⟨?_, ?_, fun u t done => ?_⟩
  · show EStateM.bind w f ⟨d, s⟩ = EStateM.bind w' f' ⟨d, s⟩
    unfold EStateM.bind
    rw [← same]
    cases done : w ⟨d, s⟩ with
    | ok v t => exact (next done t.stream).1
    | error e t => rfl
  · refine afterwards_bind (R := fun t => t.draft.Clear warnings) (fun e t failed => ?_)
      fun v t done => (next done t.stream).2.1
    rwa [failed] at clear
  · obtain ⟨v, t', done, rest⟩ := bind_eq_ok.1 done
    exact (next done t'.stream).2.2 u t rest

/-- A step that is the same on both sides and writes no rooms. -/
theorem still (clear : d.Clear warnings) (unmoved : Still w) :
    Accord warnings d w w fun v e => d.SameRooms e ∧ ∃ s t, w ⟨d, s⟩ = .ok v t ∧ t.draft = e := by
  refine fun s => ⟨rfl, clear.of_same (unmoved ⟨d, s⟩), fun v t done => ⟨?_, s, t, done, rfl⟩⟩
  have kept := unmoved ⟨d, s⟩
  rwa [done] at kept

/-- A step that is the same on both sides and reads or draws. -/
theorem ask {P : β → Prop} (clear : d.Clear warnings) (unmoved : Still w) (asks : Asks d w P)
    (next : ∀ v, P v → Accord warnings d (f v) (f' v) Q) :
    Accord warnings d (w >>= f) (w >>= f') Q := by
  refine (still clear unmoved).bind fun v e _ ⟨_, s, t, done, left⟩ => ?_
  obtain ⟨k, gained, ⟨rfl, post⟩, _⟩ := asks done
  rw [Draft.gain_empty] at gained
  cases left.symm.trans gained
  exact next v post

theorem draw {x x' : Draw σ β} {P : β → Prop}
    (same : ∀ s, ∃ v t, x s = .ok v t ∧ x' s = .ok v t ∧ P v)
    (next : ∀ v, P v → Accord warnings d (f v) (f' v) Q) :
    Accord warnings d (Work.draw x >>= f) (Work.draw x' >>= f') Q := by
  intro s
  obtain ⟨v, t, left, right, post⟩ := same s
  have drawn {x : Draw σ β} (given : x s = .ok v t) (g : β → Work σ α γ) :
      (Work.draw x >>= g) ⟨d, s⟩ = g v ⟨d, t⟩ := by
    show EStateM.bind (Work.draw x) g ⟨d, s⟩ = _
    simp only [EStateM.bind, Work.draw, given]
  rw [drawn left, drawn right]
  exact next v post t

theorem look {f f' : Draft α → Work σ α β} {Q : β → Draft α → Prop}
    (h : Accord warnings d (f d) (f' d) Q) :
    Accord warnings d (Work.draft >>= f) (Work.draft >>= f') Q := h

end Accord

end Work

namespace Job

open Work

variable (j : Job α)

theorem still_checkedPlan (plan : RoomPlan α) :
    Still (j.checkedPlan plan : Work σ α (CheckedPlan α)) :=
  (Still.lift _).bind fun _ => (Still.lift _).bind fun _ => (Still.lift _).bind fun _ =>
    (Still.lift _).bind fun _ => (Still.failWith j _).bind fun _ => .pure _

theorem still_single (incoming : List (Fragment α)) :
    Still (j.single incoming : Work σ α (Fragment α)) := .ite (.fail j _) (.lift _)

theorem still_continueFrom (f : Fragment α) (roomId : String) :
    Still (continueFrom f roomId : Work σ α (Fragment α)) :=
  (Still.boundsOf roomId).bind fun _ => .pure _

variable [Source σ α]

omit [Scalar α] in
theorem still_count (range : Setting CountRange α) (name : String) :
    Still (j.count range name : Work σ α Nat) :=
  (Still.lift _).bind fun _ => (Still.lift _).bind fun _ => (Still.failWith j _).bind fun _ =>
    (Still.draw _).bind fun _ => .pure _

omit [Scalar α] in
theorem still_chooseShape (shapes : Setting (List RoomShape) α) :
    Still (chooseShape shapes : Work σ α (Except Fault String)) := by
  cases shapes with
  | proper shapes => exact (Still.draw _).bind fun _ => .pure _
  | foreign v =>
    refine (Still.lift _).bind fun n => (Still.draw _).bind fun i => ?_
    split
    · exact .throw _
    · exact .pure _

theorem still_connectRoom (roomId : String) (bounds : Rect α) (others : List String) :
    Still (connectRoom roomId bounds others : Work σ α Unit) := by
  induction others with
  | nil => exact .pure ()
  | cons other rest ih =>
    exact (Still.boundsOf other).bind fun _ => (Still.draw _).bind fun _ => (Still.connect _).bind fun _ => ih

theorem still_connectRooms (anchors : List String) (roomId : String) :
    Still (connectRooms anchors roomId : Work σ α Unit) :=
  Still.draft.bind fun _ => (Still.boundsOf roomId).bind fun _ => still_connectRoom _ _ _

variable [Exact α] {d : Draft α} {warnings : List String}

omit [Source σ α] [Exact α] in
/-- A room is put where no other room is, or nothing changes. -/
theorem accord_addTagged {r : Room α} {tags : Value α} {root : Bool} (clear : d.Clear warnings)
    (apart : ∀ q ∈ d.rooms, q.bounds.Apart r.bounds) :
    Accord warnings d (tryWrite fun d => d.addTagged r tags root : Work σ α Unit)
      (tryWrite fun d => d.addTagged r tags root) fun _ e =>
        r.id ∉ d.ids ∧ ∃ q, q.id = r.id ∧ q.bounds = r.bounds ∧ e.rooms = d.rooms ++ [q] := by
  intro s
  have added {v : Unit} {t : Site σ α}
      (done : tryWrite (fun d => d.addTagged r tags root) ⟨d, s⟩ = .ok v t) :
      t.draft.warnings = d.warnings ∧ r.id ∉ d.ids ∧
        ∃ q, q.id = r.id ∧ q.bounds = r.bounds ∧ t.draft.rooms = d.rooms ++ [q] := by
    obtain ⟨k, gained, ⟨given, rfl, _, new⟩, _⟩ := adds_addTagged done
    rw [gained]
    exact ⟨List.append_nil _, new, { r with tags := given }, rfl, rfl, by simp [Draft.gain]⟩
  refine ⟨rfl, ?_, fun v t done => (added done).2⟩
  cases done : tryWrite (fun d => d.addTagged r tags root) (⟨d, s⟩ : Site σ α) with
  | ok v t =>
    obtain ⟨same, _, q, _, lies, rooms⟩ := added done
    refine ⟨?_, same.trans clear.warnings⟩
    show t.draft.rooms.Pairwise _
    rw [rooms]
    refine List.pairwise_append.2 ⟨clear.apart, List.pairwise_singleton _ _, fun old there new member => ?_⟩
    rw [List.mem_singleton.1 member, lies]
    exact apart old there
  | error e t =>
    have kept : t = ⟨d, s⟩ := by
      unfold tryWrite at done
      split at done
      · cases done
      · cases done
        rfl
    rw [kept]
    exact clear

variable (fractions : Source.Fractions (α := α) σ) {n : Int} (count : j.retries.toCount = .ok n)
include fractions count

/-- A room that is attached where nothing is ahead needs no second try, and then nothing is ahead of
it. -/
theorem accord_buildRoom {p : CheckedPlan α} (fine : p.size.problems = []) (clear : d.Clear warnings)
    (roomId : String) (f : Fragment α) {a : Attachment α} (ahead : d.Open a) :
    Accord warnings d (j.buildRoom roomId p f a : Work σ α Unit)
      ((j.trying (.int 0)).buildRoom roomId p f a) fun _ e =>
        e.Leads a.direction roomId ∧ e.ids = d.ids ++ [roomId] := by
  refine .ask clear (.draw _) (.draw _) fun width wide => ?_
  refine .ask clear (.draw _) (.draw _) fun height high => ?_
  refine .ask clear (still_chooseShape _) (asks_chooseShape _) fun shape _ => ?_
  refine .ask clear (.draw _) (.draw _) fun doors _ => ?_
  obtain ⟨anchor, direction, lateral⟩ := a
  cases anchor
  on_goal 1 =>
    refine .ask clear (.pure _) (.known _) fun ref _ => ?_
    have farthest : ∀ q ∈ d.rooms, q.bounds.front direction ≤ ref.front direction := by
      rw [show d.rooms = [] from ahead]
      exact fun _ none => nomatch none
  on_goal 2 =>
    refine .ask clear (.boundsOf _) (.boundsOf _) fun ref there => ?_
    have farthest : ∀ q ∈ d.rooms, q.bounds.front direction ≤ ref.front direction := by
      obtain ⟨b, there', farthest⟩ := ahead
      cases there.symm.trans there'
      exact farthest
  all_goals
    refine .look (.draw (P := fun x => x.2 = false ∧ ref.front direction < x.1.back direction ∧
      x.1.width = width ∧ x.1.height = height) (fun s => ?_) ?_)
    · obtain ⟨b, t, placed, beyond, sides⟩ := Placement.placeBounds_of_ahead fractions
        (List.forall_mem_map.2 farthest) lateral width height s
      exact ⟨(b, false), t, placed _ _ count, placed _ 0 rfl, rfl, beyond, sides⟩
    rintro ⟨bounds, overlapped⟩ ⟨rfl, beyond, sides⟩
    refine .ask clear (.lift _) (.lift _) fun name _ => ?_
    have solid : bounds.Solid := CheckedPlan.Sizes.solid fractions (p := p)
      ⟨sides.1 ▸ wide, sides.2 ▸ high⟩ fine
    have ahead' : ∀ q ∈ d.rooms, q.bounds.front direction ≤ bounds.back direction :=
      fun q member => (farthest q member).trans beyond.le
    dsimp only
    rw [if_neg Bool.false_ne_true, if_neg Bool.false_ne_true]
    refine .mono (accord_addTagged clear ?_) ?_
    · exact fun q member => Rect.apart_of_front_le (ahead' q member)
    · rintro _ e ⟨new, q, rfl, rfl, rooms⟩
      exact ⟨Draft.leads_snoc new rooms solid ahead', by simp [Draft.ids, rooms]⟩

/-- Placing a room where nothing is ahead, connecting it, and then the rest of the work. -/
theorem accord_placedRoom {p : CheckedPlan α} (fine : p.size.problems = []) (clear : d.Clear warnings)
    (roomId : String) (f : Fragment α) {a : Attachment α} (ahead : d.Open a) (anchors : List String)
    {rest rest' : Work σ α β} {Q : β → Draft α → Prop}
    (next : ∀ e, e.Clear warnings → e.Leads a.direction roomId → e.ids = d.ids ++ [roomId] →
      Accord warnings e rest rest' Q) :
    Accord warnings d (do j.buildRoom roomId p f a; connectRooms anchors roomId; rest)
      (do (j.trying (.int 0)).buildRoom roomId p f a; connectRooms anchors roomId; rest') Q := by
  refine .bind (j.accord_buildRoom fractions count fine clear roomId f ahead) ?_
  intro _ e clear ⟨leads, ids⟩
  refine .bind (.still clear (still_connectRooms anchors roomId)) fun _ e' clear ⟨same, _⟩ => ?_
  exact next e' clear (leads.of_same same) (same.ids.trans ids)

/-- Each room of a chain that goes straight on is attached to the one that leads. -/
theorem accord_laterRooms {data : RoomChainData α} (linear : data.style.getD .linear = .linear)
    {p : CheckedPlan α} (fine : p.size.problems = []) (f : Fragment α) (ids placed : List String)
    {last : String} (clear : d.Clear warnings) (leads : d.Leads f.direction last) :
    Accord warnings d (j.laterRooms data p f placed last ids : Work σ α String)
      ((j.trying (.int 0)).laterRooms data p f placed last ids) fun _ e => e.ids = d.ids ++ ids := by
  induction ids generalizing d placed last with
  | nil => exact .pure clear (List.append_nil _).symm
  | cons id rest ih =>
    rw [laterRooms, laterRooms, linear]
    refine .ask clear (.pure _) (.known _) ?_
    rintro _ rfl
    have ahead : d.Open (⟨some last, f.direction, 0.0⟩ : Attachment α) := leads
    refine j.accord_placedRoom fractions count fine clear id f ahead [last] fun e clear leads ids => ?_
    refine .mono (ih (placed ++ [id]) clear leads) fun _ e' more => ?_
    rw [more, ids, List.append_assoc]
    rfl

/-- A chain that goes straight on, on a draft without rooms and from a place that is no room, puts all
its rooms where they do not intersect and warns of nothing, whether it succeeds or fails. It does what it
does without any retries: only the first place for each room is ever drawn. -/
theorem roomChain_straight {data : RoomChainData α} (linear : data.style.getD .linear = .linear)
    {incoming : List (Fragment α)} {f : Fragment α} (merged : Fragment.merge incoming = .ok f)
    (loose : f.anchor = none) {s : Site σ α} (bare : s.draft.rooms = []) :
    let result := j.roomChain data incoming s
    result = (j.trying (.int 0)).roomChain data incoming s ∧
      ((afterwards result).draft.rooms.Pairwise fun r q => r.bounds.Apart q.bounds) ∧
      (afterwards result).draft.warnings = s.draft.warnings ∧
      ∀ out t, result = .ok out t → ∃ range n, data.count = .proper range ∧
        range.Draws σ (n : Nat) ∧ t.draft.ids = Placement.roomIds j.node.id n := by
  intro result
  have clear : s.draft.Clear s.draft.warnings := ⟨by rw [bare]; exact .nil, rfl⟩
  have accord : Accord s.draft.warnings s.draft (j.roomChain data incoming : Work σ α (Outcome α))
      ((j.trying (.int 0)).roomChain data incoming) fun _ e => ∃ range n,
        data.count = .proper range ∧ range.Draws σ (n : Nat) ∧
          e.ids = Placement.roomIds j.node.id n := by
    refine .ask clear (j.still_checkedPlan _) (j.asks_checkedPlan _) fun p kept => ?_
    refine .ask clear (j.still_single _) (j.asks_single _) fun g merged' => ?_
    cases merged.symm.trans merged'
    refine .ask clear (j.still_count _ _) (j.asks_count _ _) fun n ⟨range, proper, drawn⟩ => ?_
    rw [node_trying]
    have none_yet : s.draft.ids = [] := by rw [Draft.ids, bare, List.map_nil]
    cases ids : Placement.roomIds j.node.id n with
    | nil => exact .pure clear ⟨range, n, proper, drawn, none_yet.trans ids.symm⟩
    | cons first rest =>
      have ahead : s.draft.Open ⟨f.anchor, f.direction, f.lateral⟩ := by
        rw [Draft.Open, loose]
        exact bare
      refine j.accord_placedRoom fractions count kept.sizes clear first f ahead f.anchors ?_
      intro e clear leads started
      refine .bind (j.accord_laterRooms fractions count linear kept.sizes f rest [first] clear leads) ?_
      intro last e' clear more
      refine .ask clear (still_continueFrom f last) (asks_continueFrom f last) fun g _ => ?_
      refine .pure clear ⟨range, n, proper, drawn, ?_⟩
      rw [more, started, none_yet, ids]
      rfl
  obtain ⟨same, ⟨apart, warnings⟩, post⟩ := accord s.stream
  exact ⟨same, apart, warnings, post⟩

end Job

namespace Gallery

/-- Three to five rooms, which grow to the left and start out moved sideways. -/
def data : RoomChainData ℚ where
  plan := Alley.graph.plan 2 4

def job : Job ℚ where
  node := Alley.graph.node "gallery" (.roomChain data) ["in"] ["out"]
  parameters := []
  retries := .int 2

def fragment : Fragment ℚ where
  cursor := ⟨10, -4⟩
  direction := .left
  lateral := 7 / 2

def site : Site Wheel ℚ := ⟨.empty, ⟨1⟩⟩

theorem returns : ∃ out t, job.roomChain data [fragment] site = .ok out t ∧
    t.draft.ids = ["gallery_0", "gallery_1", "gallery_2", "gallery_3"] := by
  have returned : (answer (job.roomChain data [fragment] site)).isOk = true := by decide +kernel
  have placed : (afterwards (job.roomChain data [fragment] site)).draft.ids =
      ["gallery_0", "gallery_1", "gallery_2", "gallery_3"] := by decide +kernel
  obtain ⟨t, done⟩ := eq_ok_of_answer Table.empty returned
  rw [done] at placed
  exact ⟨_, t, done, placed⟩

end Gallery

theorem Job.roomChain_straight_gallery :
    Source.Fractions (α := ℚ) Wheel ∧ Gallery.job.retries.toCount = .ok 2 ∧
    Gallery.data.style.getD .linear = .linear ∧
    Fragment.merge [Gallery.fragment] = .ok Gallery.fragment ∧ Gallery.fragment.anchor = none ∧
    Gallery.site.draft.rooms = [] ∧
    ∃ out t, Gallery.job.roomChain Gallery.data [Gallery.fragment] Gallery.site = .ok out t ∧
      (Gallery.job.trying (.int 0)).roomChain Gallery.data [Gallery.fragment] Gallery.site =
        .ok out t ∧
      t.draft.ids = ["gallery_0", "gallery_1", "gallery_2", "gallery_3"] ∧
      (t.draft.rooms.Pairwise fun r q => r.bounds.Apart q.bounds) ∧ t.draft.warnings = [] := by
  obtain ⟨out, t, done, ids⟩ := Gallery.returns
  have count : Gallery.job.retries.toCount = .ok 2 := rfl
  have linear : Gallery.data.style.getD .linear = .linear := rfl
  have merged : Fragment.merge [Gallery.fragment] = .ok Gallery.fragment := rfl
  have bare : Gallery.site.draft.rooms = [] := rfl
  obtain ⟨same, apart, warnings, _⟩ :=
    Gallery.job.roomChain_straight Wheel.fractions count linear merged rfl bare
  rw [done] at same apart warnings
  exact ⟨Wheel.fractions, count, linear, merged, rfl, bare, out, t, done, same.symm, ids, apart,
    warnings⟩

end Dungeon
