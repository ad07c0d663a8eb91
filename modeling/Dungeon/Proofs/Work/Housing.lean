import Dungeon.Proofs.Placement
import Dungeon.Proofs.Work.Pieces

/-!
# Drafts in which everything is in its room

With exact numbers every piece that a node adds lies where it belongs: rooms have a size, entities,
spawn points and exits are in their rooms, doors are in the walls of the rooms that they lead to, and
a start is a part of the way through the first room.
-/

namespace Dungeon

open Exact

variable {σ α : Type} [Scalar α] [Exact α]

namespace Draft

/-- A room with this id is there, and its bounds have the property. -/
def At (d : Draft α) (id : String) (P : Rect α → Prop) : Prop := ∃ b, d.boundsOf id = .ok b ∧ P b

omit [Scalar α] [Exact α] in
theorem At.gain {d : Draft α} {id : String} {P : Rect α → Prop} (h : d.At id P)
    (k : Contribution α) : (d.gain k).At id P := by
  obtain ⟨b, there, holds⟩ := h
  exact ⟨b, boundsOf_gain there k, holds⟩

/-- Everything that has been placed lies where it belongs. -/
structure Housed (d : Draft α) : Prop where
  rooms : ∀ r ∈ d.rooms, r.bounds.Solid
  entities : ∀ r ∈ d.rooms, ∀ e ∈ r.entities, d.At r.id fun b => b.contains e.position = true
  spawnPoints : ∀ p ∈ d.spawnPoints, d.At p.roomId fun b => b.contains p.position = true
  exits : ∀ x ∈ d.exits, d.At x.roomId fun b => x.position = b.center
  fromDoors : ∀ c ∈ d.connections, d.At c.fromRoom fun b => b.OnEdge c.fromDoor
  toDoors : ∀ c ∈ d.connections, d.At c.toRoom fun b => b.OnEdge c.toDoor
  start : Proportion d.startOffset

namespace Housed

variable {d : Draft α} {k : Contribution α}

theorem empty : (empty : Draft α).Housed where
  rooms := fun _ member => nomatch member
  entities := fun _ member => nomatch member
  spawnPoints := fun _ member => nomatch member
  exits := fun _ member => nomatch member
  fromDoors := fun _ member => nomatch member
  toDoors := fun _ member => nomatch member
  start := by
    constructor <;> simp only [Draft.empty, value_scientific] <;> norm_num

theorem solid (h : d.Housed) {id : String} {b : Rect α} (there : d.boundsOf id = .ok b) : b.Solid := by
  obtain ⟨r, found, rfl⟩ := boundsOf_eq_ok.1 there
  exact h.rooms r (List.mem_of_find?_eq_some found)

/-- What is added must lie where it belongs as well. -/
theorem gain (h : d.Housed) (rooms : ∀ r ∈ k.rooms, r.bounds.Solid ∧ r.entities = [])
    (content : ∀ x ∈ k.content, d.At x.1 fun b => b.contains x.2.position = true)
    (spawnPoints : ∀ p ∈ k.spawnPoints, d.At p.roomId fun b => b.contains p.position = true)
    (exits : ∀ x ∈ k.exits, d.At x.roomId fun b => x.position = b.center)
    (connections : ∀ c ∈ k.connections,
      d.At c.fromRoom (fun b => b.OnEdge c.fromDoor) ∧ d.At c.toRoom fun b => b.OnEdge c.toDoor)
    (start : ∀ x ∈ k.start, Proportion x.2) : (d.gain k).Housed where
  rooms := by
    refine List.forall_mem_append.2 ⟨List.forall_mem_map.2 h.rooms, fun r member => (rooms r member).1⟩
  entities := by
    refine List.forall_mem_append.2 ⟨List.forall_mem_map.2 fun r member => ?_, fun r member => ?_⟩
    · refine List.forall_mem_append.2 ⟨fun e old => (h.entities r member e old).gain k, fun e new => ?_⟩
      obtain ⟨x, into, rfl⟩ := List.mem_map.1 new
      obtain ⟨there, same⟩ := List.mem_filter.1 into
      have named : x.1 = r.id := by simpa using same
      exact named ▸ (content x there).gain k
    · rw [(rooms r member).2]
      exact fun _ none => nomatch none
  spawnPoints := List.forall_mem_append.2
    ⟨fun p old => (h.spawnPoints p old).gain k, fun p new => (spawnPoints p new).gain k⟩
  exits := List.forall_mem_append.2
    ⟨fun x old => (h.exits x old).gain k, fun x new => (exits x new).gain k⟩
  fromDoors := List.forall_mem_append.2
    ⟨fun c old => (h.fromDoors c old).gain k, fun c new => (connections c new).1.gain k⟩
  toDoors := List.forall_mem_append.2
    ⟨fun c old => (h.toDoors c old).gain k, fun c new => (connections c new).2.gain k⟩
  start := by
    cases given : k.start with
    | none => simpa [Draft.gain, given] using h.start
    | some x => simpa [Draft.gain, given] using start x given

end Housed

end Draft

/-- A range without problems has sizes to choose from, all of them with a length. -/
structure SizeRange.Sound (r : SizeRange α) : Prop where
  width : 0 < value r.low.w ∧ value r.low.w ≤ value r.high.w
  height : 0 < value r.low.h ∧ value r.low.h ≤ value r.high.h

theorem SizeRange.sound_of_problems {r : SizeRange α} (fine : r.problems = []) : r.Sound := by
  have zero : value (0.0 : α) = 0 := by
    rw [value_scientific]
    norm_num
  obtain ⟨positive, ordered⟩ := List.append_eq_nil_iff.1 fine
  have some_size : ¬ (value r.low.w ≤ 0 ∨ value r.low.h ≤ 0) := by
    simpa only [ite_eq_right_iff, List.cons_ne_nil, imp_false, Bool.or_eq_true, le_iff, zero]
      using positive
  have in_order : ¬ (value r.high.w < value r.low.w ∨ value r.high.h < value r.low.h) := by
    simpa only [ite_eq_right_iff, List.cons_ne_nil, imp_false, Bool.or_eq_true, lt_iff] using ordered
  rw [not_or, not_le, not_le] at some_size
  rw [not_or, not_lt, not_lt] at in_order
  exact ⟨⟨some_size.1, in_order.1⟩, some_size.2, in_order.2⟩

section

variable [Source σ α] (fractions : Source.Fractions (α := α) σ)
include fractions

theorem CheckedPlan.Sizes.solid {p : CheckedPlan α} {b : Rect α} (sizes : p.Sizes σ b)
    (fine : p.size.problems = []) : b.Solid := by
  obtain ⟨⟨s, t, wide⟩, s', t', high⟩ := sizes
  have sound := SizeRange.sound_of_problems fine
  have width := (Draw.gives_between fractions sound.width.2).of_eq_ok wide
  have height := (Draw.gives_between fractions sound.height.2).of_eq_ok high
  exact ⟨sound.width.1.trans_le width.1, sound.height.1.trans_le height.1⟩

namespace Job

theorem gives_entityPoint {b : Rect α} (solid : b.Solid) (radius : Option α) :
    Draw.Gives (entityPoint b radius : Draw σ (Point α)) fun p => b.contains p = true := by
  have outward : 0 ≤ value (Placement.wallPadding : α) := by
    simp only [Placement.wallPadding, value_scientific]
    norm_num
  intro s
  cases radius with
  | none =>
    obtain ⟨p, t, drawn, inside⟩ :=
      Placement.gives_pointInRoom fractions b Placement.wallPadding s
    exact ⟨p, t, drawn, inside solid outward⟩
  | some radius =>
    obtain ⟨p, t, drawn, inside⟩ :=
      Placement.gives_pointNearCentre fractions b radius Placement.wallPadding s
    exact ⟨p, t, drawn, inside solid outward⟩

theorem StartOffset.proportion {offset : Point α} (lies : StartOffset σ offset) :
    Draft.Proportion offset := by
  have part {x : α} {s t : σ} (drawn : Draw.between 0.2 0.8 s = .ok x t) :
      0 ≤ value x ∧ value x ≤ 1 := by
    have ordered : value (0.2 : α) ≤ value (0.8 : α) := by
      simp only [value_scientific]
      norm_num
    have between := (Draw.gives_between fractions ordered).of_eq_ok drawn
    simp only [value_scientific] at between
    norm_num at between
    constructor <;> linarith
  cases lies with
  | middle => constructor <;> simp only [value_scientific] <;> norm_num
  | drawn across down => exact ⟨part across, part down⟩

/-- Every piece lies where it belongs. -/
theorem Piece.housed {j : Job α} {d : Draft α} {k : Contribution α} (piece : j.Piece σ d k)
    (h : d.Housed) : (d.gain k).Housed := by
  cases piece with
  | room fine raises =>
    obtain ⟨_, _, _, bounds, _, _, _, _, sizes, _, _, rfl⟩ := raises
    have solid := sizes.solid fractions fine
    exact h.gain (by simpa [builtRoom] using solid) (by simp) (by simp) (by simp) (by simp) (by simp)
  | connection fromThere toThere drawn =>
    obtain ⟨fromEdge, toEdge⟩ := (Placement.gives_facingDoors fractions _ _).of_eq_ok drawn
    refine h.gain (by simp) (by simp) (by simp) (by simp) ?_ (by simp)
    refine List.forall_mem_singleton.2 ⟨⟨_, fromThere, ?_⟩, _, toThere, ?_⟩
    · exact fromEdge (h.solid fromThere)
    · exact toEdge (h.solid toThere)
  | entity there drawn =>
    have inside := (gives_entityPoint fractions (h.solid there) _).of_eq_ok drawn
    show (d.gain { content := [(_, _)] }).Housed
    refine h.gain (by simp) ?_ (by simp) (by simp) (by simp) (by simp)
    exact List.forall_mem_singleton.2 ⟨_, there, inside⟩
  | spawnPoint there drawn =>
    have inside := (gives_entityPoint fractions (h.solid there) _).of_eq_ok drawn
    refine h.gain (by simp) (by simp) ?_ (by simp) (by simp) (by simp)
    exact List.forall_mem_singleton.2 ⟨_, there, inside⟩
  | exit there centre =>
    refine h.gain (by simp) (by simp) (by simp) ?_ (by simp) (by simp)
    exact List.forall_mem_singleton.2 ⟨_, there, centre⟩
  | start lies =>
    refine h.gain (by simp) (by simp) (by simp) (by simp) (by simp) ?_
    rintro _ ⟨⟩
    exact lies.proportion fractions

end Job

end

end Dungeon
