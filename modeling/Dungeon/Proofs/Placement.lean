import Dungeon.Draft
import Dungeon.Placement
import Dungeon.Proofs.Exact
import Dungeon.Proofs.Work.Survival

/-!
# Where points lie

With exact numbers every place that is drawn is a good one: a number between two bounds that are in
order, a point in a room, doors in the walls of two rooms. The bounds that numbers are drawn between
are in order whatever the rooms are, so none of these draws fails.
-/

namespace Dungeon

variable {σ α β γ : Type}

/-- Whatever the stream is, a draw gives something of the sort. -/
def Draw.Gives (d : Draw σ β) (P : β → Prop) : Prop := ∀ s, ∃ v t, d s = .ok v t ∧ P v

namespace Draw.Gives

theorem pure {P : β → Prop} {v : β} (h : P v) : Gives (pure v : Draw σ β) P :=
  fun s => ⟨v, s, rfl, h⟩

theorem bind {P : β → Prop} {Q : γ → Prop} {d : Draw σ β} {f : β → Draw σ γ} (first : Gives d P)
    (second : ∀ v, P v → Gives (f v) Q) : Gives (d >>= f) Q := by
  intro s
  obtain ⟨v, t, drawn, post⟩ := first s
  obtain ⟨w, u, rest, post'⟩ := second v post t
  exact ⟨w, u, bind_eq_ok.2 ⟨v, t, drawn, rest⟩, post'⟩

theorem of_eq_ok {P : β → Prop} {d : Draw σ β} (h : Gives d P) {s t : σ} {v : β}
    (drawn : d s = .ok v t) : P v := by
  obtain ⟨w, u, drawn', post⟩ := h s
  cases drawn.symm.trans drawn'
  exact post

theorem returns {P : β → Prop} {d : Draw σ β} (h : Gives d P) (s : σ) : ∃ v t, d s = .ok v t := by
  obtain ⟨v, t, drawn, _⟩ := h s
  exact ⟨v, t, drawn⟩

end Draw.Gives

open Exact

variable [Scalar α] [Exact α]

namespace Rect

/-- Both sides have a length. -/
structure Solid (r : Rect α) : Prop where
  width : 0 < value r.width
  height : 0 < value r.height

omit [Exact α] in
theorem contains_iff {r : Rect α} {p : Point α} : r.contains p = true ↔
    (Scalar.le r.x p.x = true ∧ Scalar.le p.x r.right = true) ∧
      Scalar.le r.y p.y = true ∧ Scalar.le p.y r.bottom = true := by
  simp [contains, and_assoc]

/-- The point is in the rectangle and on one of its sides. -/
structure OnEdge (r : Rect α) (p : Point α) : Prop where
  inside : r.contains p = true
  side : value p.x = value r.x ∨ value p.x = value r.right ∨ value p.y = value r.y ∨
    value p.y = value r.bottom

@[simp] theorem value_right (r : Rect α) : value r.right = value r.x + value r.width := value_add _ _

@[simp] theorem value_bottom (r : Rect α) : value r.bottom = value r.y + value r.height :=
  value_add _ _

@[simp] theorem value_center_x (r : Rect α) : value r.center.x = value r.x + value r.width / 2 := by
  simp only [center, value_add, value_div, value_scientific]
  norm_num

@[simp] theorem value_center_y (r : Rect α) : value r.center.y = value r.y + value r.height / 2 := by
  simp only [center, value_add, value_div, value_scientific]
  norm_num

theorem Solid.contains_center {r : Rect α} (solid : r.Solid) : r.contains r.center = true := by
  have width := solid.width
  have height := solid.height
  simp only [contains_iff, le_iff, value_center_x, value_center_y, value_right, value_bottom]
  refine ⟨⟨?_, ?_⟩, ?_, ?_⟩ <;> linarith

namespace Solid

variable {r : Rect α} (solid : r.Solid) {u : α} (least : 0 ≤ value u) (most : value u ≤ 1)
include solid least most

theorem within_width : value r.x ≤ value (r.x + u * r.width) ∧
    value (r.x + u * r.width) ≤ value r.right := by
  have width := solid.width
  simp only [value_add, value_mul, value_right]
  constructor <;> nlinarith

theorem within_height : value r.y ≤ value (r.y + u * r.height) ∧
    value (r.y + u * r.height) ≤ value r.bottom := by
  have height := solid.height
  simp only [value_add, value_mul, value_bottom]
  constructor <;> nlinarith

/-- A part of the way down the left or the right side. -/
theorem onEdge_down {x : α} (side : x = r.x ∨ x = r.right) : r.OnEdge ⟨x, r.y + u * r.height⟩ := by
  have width := solid.width
  have down := solid.within_height least most
  rcases side with rfl | rfl
  · refine ⟨?_, .inl rfl⟩
    simp only [contains_iff, le_iff, value_right]
    exact ⟨⟨le_refl _, by linarith⟩, down⟩
  · refine ⟨?_, .inr (.inl rfl)⟩
    simp only [contains_iff, le_iff, value_right]
    exact ⟨⟨by linarith, le_refl _⟩, down⟩

/-- A part of the way along the upper or the lower side. -/
theorem onEdge_across {y : α} (side : y = r.y ∨ y = r.bottom) :
    r.OnEdge ⟨r.x + u * r.width, y⟩ := by
  have height := solid.height
  have across := solid.within_width least most
  rcases side with rfl | rfl
  · refine ⟨?_, .inr (.inr (.inl rfl))⟩
    simp only [contains_iff, le_iff, value_bottom]
    exact ⟨across, le_refl _, by linarith⟩
  · refine ⟨?_, .inr (.inr (.inr rfl))⟩
    simp only [contains_iff, le_iff, value_bottom]
    exact ⟨across, by linarith, le_refl _⟩

end Solid

end Rect

/-- Draws are fractions, at least zero and below one. -/
def Source.Fractions (σ : Type) [Source σ α] : Prop :=
  ∀ s : σ, 0 ≤ value (Source.unit s).1 ∧ value (Source.unit s).1 < 1

section

variable [Source σ α]

/-- Between bounds in order a number is drawn. -/
theorem Draw.between_eq {a b : α} (ordered : value a ≤ value b) (s : σ) :
    between a b s = .ok (a + (b - a) * (Source.unit s).1) (Source.unit s).2 := by
  have not_reversed : ¬ Scalar.lt b a = true := by
    rw [lt_iff]
    exact not_lt.2 ordered
  rw [between, if_neg not_reversed]
  rfl

variable (fractions : Source.Fractions (α := α) σ)
include fractions

/-- What is drawn between bounds in order lies between them. -/
theorem Draw.gives_between {a b : α} (ordered : value a ≤ value b) :
    Gives (between a b : Draw σ α) fun x => value a ≤ value x ∧ value x ≤ value b := by
  intro s
  obtain ⟨least, most⟩ := fractions s
  refine ⟨_, _, between_eq ordered s, ?_⟩
  simp only [value_add, value_mul, value_sub]
  constructor <;> nlinarith

namespace Placement

open Draw

omit [Source σ α] fractions in
/-- The bounds of a padded side are in order, and within the side if that has a length. -/
theorem paddedSide_ordered {low high length centre : α} (padding : α)
    (top : value high = value low + value length)
    (middle : value centre = value low + value length / 2) :
    value (paddedSide low high length centre padding).1 ≤
        value (paddedSide low high length centre padding).2 ∧
      (0 < value length → 0 ≤ value padding →
        value low ≤ value (paddedSide low high length centre padding).1 ∧
          value (paddedSide low high length centre padding).2 ≤ value high) := by
  unfold paddedSide
  split
  next =>
    refine ⟨le_refl _, fun some_length _ => ?_⟩
    rw [top, middle]
    constructor <;> linarith
  next wide =>
    have long : 2 * value padding < value length := by
      have beyond := not_le.1 (mt (le_iff length (2.0 * padding)).2 wide)
      rw [value_mul, value_scientific] at beyond
      norm_num at beyond
      exact beyond
    simp only [value_add, value_sub]
    refine ⟨by linarith, fun _ _ => ⟨by linarith, by linarith⟩⟩

omit [Source σ α] fractions in
theorem paddedX_ordered (bounds : Rect α) (padding : α) :
    value (paddedX bounds padding).1 ≤ value (paddedX bounds padding).2 ∧
      (0 < value bounds.width → 0 ≤ value padding →
        value bounds.x ≤ value (paddedX bounds padding).1 ∧
          value (paddedX bounds padding).2 ≤ value bounds.right) :=
  paddedSide_ordered padding bounds.value_right bounds.value_center_x

omit [Source σ α] fractions in
theorem paddedY_ordered (bounds : Rect α) (padding : α) :
    value (paddedY bounds padding).1 ≤ value (paddedY bounds padding).2 ∧
      (0 < value bounds.height → 0 ≤ value padding →
        value bounds.y ≤ value (paddedY bounds padding).1 ∧
          value (paddedY bounds padding).2 ≤ value bounds.bottom) :=
  paddedSide_ordered padding bounds.value_bottom bounds.value_center_y

omit [Source σ α] fractions in
/-- What lies between the padded bounds lies in the room. -/
theorem contains_of_padded {bounds : Rect α} {padding : α} {p : Point α}
    (across : value (paddedX bounds padding).1 ≤ value p.x ∧
      value p.x ≤ value (paddedX bounds padding).2)
    (down : value (paddedY bounds padding).1 ≤ value p.y ∧
      value p.y ≤ value (paddedY bounds padding).2)
    (solid : bounds.Solid) (outward : 0 ≤ value padding) : bounds.contains p = true := by
  obtain ⟨left, right⟩ := (paddedX_ordered bounds padding).2 solid.width outward
  obtain ⟨top, bottom⟩ := (paddedY_ordered bounds padding).2 solid.height outward
  simp only [Rect.contains_iff, le_iff]
  exact ⟨⟨left.trans across.1, across.2.trans right⟩, top.trans down.1, down.2.trans bottom⟩

/-- A point is drawn for every room and every padding; it lies in the room. -/
theorem gives_pointInRoom (bounds : Rect α) (padding : α) :
    Gives (pointInRoom bounds padding : Draw σ (Point α)) fun p =>
      bounds.Solid → 0 ≤ value padding → bounds.contains p = true := by
  unfold pointInRoom
  refine .bind (gives_between fractions (paddedX_ordered bounds padding).1) fun x across => ?_
  refine .bind (gives_between fractions (paddedY_ordered bounds padding).1) fun y down => ?_
  exact .pure (contains_of_padded across down)

omit [Source σ α] fractions in
theorem value_clamp {x low high : α} (ordered : value low ≤ value high) :
    value low ≤ value (clamp x low high) ∧ value (clamp x low high) ≤ value high := by
  unfold clamp
  rw [value_min, value_max]
  exact ⟨le_min (le_max_right _ _) ordered, min_le_right _ _⟩

/-- A point near the centre is drawn for every room and every radius, whatever roots, sines and cosines
are; it lies in the room. -/
theorem gives_pointNearCentre (bounds : Rect α) (radius padding : α) :
    Gives (pointNearCentre bounds radius padding : Draw σ (Point α)) fun p =>
      bounds.Solid → 0 ≤ value padding → bounds.contains p = true := by
  have circle : value (0.0 : α) ≤ value (2.0 * Scalar.pi : α) := by
    have pi := pi_pos (α := α)
    simp only [value_mul, value_scientific]
    norm_num
    exact pi.le
  have unit : value (0.0 : α) ≤ value (1.0 : α) := by
    simp only [value_scientific]
    norm_num
  unfold pointNearCentre
  refine .bind (gives_between fractions circle) fun angle _ => ?_
  refine .bind (gives_between fractions unit) fun u _ => .pure ?_
  exact contains_of_padded (value_clamp (paddedX_ordered bounds padding).1)
    (value_clamp (paddedY_ordered bounds padding).1)

/-- Doors are drawn for every two rooms. They lie in walls of these rooms. -/
theorem gives_facingDoors (a b : Rect α) :
    Gives (facingDoors a b : Draw σ (Point α × Point α)) fun doors =>
      (a.Solid → a.OnEdge doors.1) ∧ (b.Solid → b.OnEdge doors.2) := by
  have span : value (doorSpan.1 : α) ≤ value (doorSpan.2 : α) := by
    simp only [doorSpan, value_scientific]
    norm_num
  have part {u : α} (drawn : value (doorSpan.1 : α) ≤ value u ∧ value u ≤ value (doorSpan.2 : α)) :
      0 ≤ value u ∧ value u ≤ 1 := by
    simp only [doorSpan, value_scientific] at drawn
    norm_num at drawn
    constructor <;> linarith
  unfold facingDoors
  refine .bind (gives_between fractions span) fun u drawn => ?_
  refine .bind (gives_between fractions span) fun v drawn' => ?_
  obtain ⟨least, most⟩ := part drawn
  obtain ⟨least', most'⟩ := part drawn'
  dsimp only
  -- The walls are those that face each other in the direction in which the rooms are farther apart.
  split
  · split
    · exact .pure ⟨fun solid => solid.onEdge_down least most (.inr rfl),
        fun solid => solid.onEdge_down least' most' (.inl rfl)⟩
    · exact .pure ⟨fun solid => solid.onEdge_down least most (.inl rfl),
        fun solid => solid.onEdge_down least' most' (.inr rfl)⟩
  · split
    · exact .pure ⟨fun solid => solid.onEdge_across least most (.inr rfl),
        fun solid => solid.onEdge_across least' most' (.inl rfl)⟩
    · exact .pure ⟨fun solid => solid.onEdge_across least most (.inl rfl),
        fun solid => solid.onEdge_across least' most' (.inr rfl)⟩

end Placement

end

namespace Draft

/-- A fraction of each side. -/
structure Proportion (p : Point α) : Prop where
  across : 0 ≤ value p.x ∧ value p.x ≤ 1
  down : 0 ≤ value p.y ∧ value p.y ≤ 1

/-- In every mode the player starts inside the room. -/
theorem contains_startIn {d : Draft α} (offset : Proportion d.startOffset) {bounds : Rect α}
    (solid : bounds.Solid) : bounds.contains (d.startIn bounds) = true := by
  have width := solid.width
  have height := solid.height
  unfold startIn
  split
  · have depth : 0 ≤ min (value (entranceDepth : α)) (value bounds.width / 2) := by
      refine le_min ?_ (by linarith)
      simp only [entranceDepth, value_scientific]
      norm_num
    have most := min_le_right (value (entranceDepth : α)) (value bounds.width / 2)
    have half : value (bounds.width / 2.0) = value bounds.width / 2 := by
      simp only [value_div, value_scientific]
      norm_num
    simp only [Rect.contains_iff, le_iff, value_add, value_min, half, Rect.value_center_y,
      Rect.value_right, Rect.value_bottom]
    refine ⟨⟨?_, ?_⟩, ?_, ?_⟩ <;> linarith
  · simp only [Rect.contains_iff, le_iff]
    exact ⟨solid.within_width offset.across.1 offset.across.2,
      solid.within_height offset.down.1 offset.down.2⟩
  · exact solid.contains_center

end Draft

end Dungeon
