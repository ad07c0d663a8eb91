import Dungeon.Conversion

/-!
# Histograms

Buckets of one width between the least and the greatest of some values. A bucket holds the values
from its start on that lie below its end; the last one holds the greatest value too. Values that are
all level are counted in the first bucket.
-/

namespace Dungeon

structure Bucket (α : Type) where
  start : α
  stop : α
  count : Nat

def Bucket.toValue {α : Type} (b : Bucket α) : Value α :=
  .record [("start", .real b.start), ("end", .real b.stop), ("count", .int b.count)]

namespace Histogram

variable {α : Type} [Scalar α]

/-- The bucket that a value falls into; `last` is the last one. -/
def slot (least width : α) (last : Nat) (x : α) : Except Fault Nat :=
  match Scalar.floor ((x - least) / width) with
  | .ok i => if i < 0 then .error .negativeCounts else .ok (min i.toNat last)
  | .error _ => .error .negativeCounts

/-- Buckets side by side, with the number of values in each. -/
def row (least greatest width : α) (buckets : Nat) (count : Nat → Nat) : List (Bucket α) :=
  (List.range buckets).map fun i => {
    start := least + Scalar.ofNat i * width
    stop := if i + 1 = buckets then greatest else least + Scalar.ofNat (i + 1) * width
    count := count i }

/-- The number of buckets. Zero of any kind divides no range. -/
def bucketCount (buckets : Value α) (flat : Bool) : Except Fault Int :=
  match buckets with
  | .num (.real x) => if !flat && Scalar.eq x 0.0 then .ok 0 else buckets.toCount
  | v => v.toCount

/-- The buckets of values in ascending order. -/
def ofSorted (values : List α) (buckets : Value α) : Except Fault (List (Bucket α)) :=
  match values.head?, values.getLast? with
  | some least, some greatest => do
    let flat := Scalar.eq greatest least
    let count ← bucketCount buckets flat
    if count < 1 then .error (.bucketCount count flat)
    else
      let n := count.toNat
      if flat then
        .ok (row least greatest 0.0 n fun i => if i = 0 then values.length else 0)
      else do
        let width := (greatest - least) / Scalar.ofNat n
        let slots ← values.mapM (slot least width (n - 1))
        return row least greatest width n slots.count
  | _, _ => .ok []

theorem length_row (least greatest width : α) (buckets : Nat) (count : Nat → Nat) :
    (row least greatest width buckets count).length = buckets := by simp [row]

end Histogram

end Dungeon
