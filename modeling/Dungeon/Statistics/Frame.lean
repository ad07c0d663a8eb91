import Dungeon.Conversion
import Dungeon.RoomGraph

/-!
# Frames

A summary puts a row for each generation into a frame, which hands the rows back by seed. What becomes
of a seed that is not a whole number of 64 bits is up to the frame.
-/

namespace Dungeon

variable {α : Type}

/-- What a generation leaves in a frame. -/
structure Row (α : Type) where
  seed : Value α
  success : Bool
  /-- The metrics of the layout, if there is one. -/
  metrics : Option Metrics := none

/-- The whole number that the seed of a row stands for. -/
def Row.key [Scalar α] (r : Row α) : Int := r.seed.toWhole.toOption.getD 0

/-- Rows go in, and rows come out. -/
structure Frame (α : Type) where
  fill : List (Row α) → Except Fault (List (Row α))

namespace Frame

/-- The frame that takes all rows. -/
def sorted [Scalar α] : Frame α where
  fill rows := .ok (sortBy (fun a b => a.key ≤ b.key) rows)

/-- One metric of all rows that have metrics. -/
def column [Scalar α] (rows : List (Row α)) (metric : Metrics → Nat) : List α :=
  (rows.filterMap Row.metrics).map fun m => Scalar.ofNat (metric m)

end Frame

end Dungeon
