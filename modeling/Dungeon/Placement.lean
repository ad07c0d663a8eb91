import Dungeon.Conversion
import Dungeon.Fragment
import Dungeon.Layout
import Dungeon.Random.Draw

/-!
# Placement

Where rooms, doors and content go. A room is put a few units away from the room it attaches to and
moved sideways at random; when it overlaps a placed room another place is tried.
-/

namespace Dungeon.Placement

variable {σ α : Type} [Scalar α] [Source σ α]

/-- The least and the greatest gap between a room and the room it attaches to. -/
def gap : α × α := (3.0, 8.0)

/-- How far a room may be moved sideways at random. -/
def jitter : α := 2.0

/-- The part of a wall that a door may be in. -/
def doorSpan : α × α := (0.25, 0.75)

/-- How far content stays off the walls. -/
def wallPadding : α := 1.5

/-- The room of a size next to `ref` in a heading, `gap` away and moved sideways by `shift`. -/
def beside (ref : Rect α) (direction : Direction) (gap shift width height : α) : Rect α :=
  let centre := ref.center
  match direction with
  | .right => ⟨ref.right + gap, centre.y - height / 2.0 + shift, width, height⟩
  | .left => ⟨ref.x - gap - width, centre.y - height / 2.0 + shift, width, height⟩
  | .down => ⟨centre.x - width / 2.0 + shift, ref.bottom + gap, width, height⟩
  | .up => ⟨centre.x - width / 2.0 + shift, ref.y - gap - height, width, height⟩

/-- One try at a place. -/
def candidate (ref : Rect α) (direction : Direction) (lateral width height : α) :
    Draw σ (Rect α) := do
  let distance ← Draw.between gap.1 gap.2
  let moved ← Draw.between (-jitter) jitter
  return beside ref direction distance (moved + lateral) width height

def overlaps (bounds : Rect α) (placed : List (Rect α)) : Bool := placed.any bounds.intersects

/-- Try other places as long as `bounds` is not free, `retries` times; the flag says that the last
place still overlaps. -/
def replace (ref : Rect α) (direction : Direction) (lateral width height : α)
    (placed : List (Rect α)) (bounds : Rect α) : Nat → Draw σ (Rect α × Bool)
  | 0 => return (bounds, overlaps bounds placed)
  | retries + 1 => do
    if overlaps bounds placed then
      replace ref direction lateral width height placed
        (← candidate ref direction lateral width height) retries
    else return (bounds, false)

/-- Try places until one is free. The number of retries is looked at after the first try. -/
def placeBounds (ref : Rect α) (direction : Direction) (lateral width height : α)
    (placed : List (Rect α)) (retries : Value α) : Draw σ (Rect α × Bool) := do
  let bounds ← candidate ref direction lateral width height
  let n ← Draw.lift retries.toCount
  replace ref direction lateral width height placed bounds n.toNat

/-- Doors in the walls of two rooms that face each other. -/
def facingDoors (a b : Rect α) : Draw σ (Point α × Point α) := do
  let dx := b.center.x - a.center.x
  let dy := b.center.y - a.center.y
  let u ← Draw.between doorSpan.1 doorSpan.2
  let v ← Draw.between doorSpan.1 doorSpan.2
  if Scalar.le (Scalar.abs dy) (Scalar.abs dx) then
    let (ax, bx) := if Scalar.le 0.0 dx then (a.right, b.x) else (a.x, b.right)
    return (⟨ax, a.y + u * a.height⟩, ⟨bx, b.y + v * b.height⟩)
  else
    let (ay, by') := if Scalar.le 0.0 dy then (a.bottom, b.y) else (a.y, b.bottom)
    return (⟨a.x + u * a.width, ay⟩, ⟨b.x + v * b.width, by'⟩)

omit [Source σ α] in
/-- The middle of the wall that the next room grows from. -/
def trailingCursor (bounds : Rect α) (direction : Direction) : Cursor α :=
  let centre := bounds.center
  match direction with
  | .right => ⟨bounds.right, centre.y⟩
  | .left => ⟨bounds.x, centre.y⟩
  | .down => ⟨centre.x, bounds.bottom⟩
  | .up => ⟨centre.x, bounds.y⟩

omit [Source σ α] in
/-- A side from `low` of a given length without the padding at both ends, or its middle `centre`
when nothing is left. -/
def paddedSide (low high length centre padding : α) : α × α :=
  if Scalar.le length (2.0 * padding) then (centre, centre) else (low + padding, high - padding)

omit [Source σ α] in
def paddedX (bounds : Rect α) (padding : α) : α × α :=
  paddedSide bounds.x bounds.right bounds.width bounds.center.x padding

omit [Source σ α] in
def paddedY (bounds : Rect α) (padding : α) : α × α :=
  paddedSide bounds.y bounds.bottom bounds.height bounds.center.y padding

/-- A point of a room off its walls. -/
def pointInRoom (bounds : Rect α) (padding : α) : Draw σ (Point α) := do
  let (xLow, xHigh) := paddedX bounds padding
  let (yLow, yHigh) := paddedY bounds padding
  let x ← Draw.between xLow xHigh
  let y ← Draw.between yLow yHigh
  return ⟨x, y⟩

omit [Source σ α] in
/-- The number nearest to `x` between two bounds. -/
def clamp (x low high : α) : α := Scalar.min (Scalar.max x low) high

/-- A point of a disc around the centre of a room, moved off its walls. -/
def pointNearCentre (bounds : Rect α) (radius padding : α) : Draw σ (Point α) := do
  let angle ← Draw.between 0.0 (2.0 * Scalar.pi)
  let u ← Draw.between 0.0 1.0
  let distance := radius * Scalar.sqrt u
  let (xLow, xHigh) := paddedX bounds padding
  let (yLow, yHigh) := paddedY bounds padding
  return ⟨clamp (bounds.center.x + distance * Scalar.cos angle) xLow xHigh,
    clamp (bounds.center.y + distance * Scalar.sin angle) yLow yHigh⟩

/-- The ids of the rooms of a chain. -/
def roomIds (nodeId : String) (count : Nat) : List String :=
  (List.range count).map fun i => nodeId ++ "_" ++ toString i

end Dungeon.Placement
