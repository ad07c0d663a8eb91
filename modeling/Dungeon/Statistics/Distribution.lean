import Dungeon.Sorting
import Dungeon.Statistics.Histogram
import Dungeon.Word

/-!
# Distributions

What statistics say about a list of values: extremes, mean, deviation, the median, percentiles and a
histogram. Medians and percentiles are values of the list; of two middle values the median is the
upper one, and a percentile is the value at the rounded down place.
-/

namespace Dungeon

structure Distribution (α : Type) where
  min : α
  max : α
  mean : α
  median : α
  deviation : α
  p5 : α
  p25 : α
  p75 : α
  p95 : α
  histogram : List (Bucket α) := []
  count : Nat := 0

namespace Distribution

variable {α : Type}

def toValue (d : Distribution α) : Value α :=
  .record [("min", .real d.min), ("max", .real d.max), ("mean", .real d.mean),
    ("median", .real d.median), ("stdDev", .real d.deviation),
    ("percentiles", .record [("p5", .real d.p5), ("p25", .real d.p25), ("p75", .real d.p75),
      ("p95", .real d.p95)]),
    ("histogram", .list (d.histogram.map Bucket.toValue)), ("count", .int d.count)]

variable [Scalar α]

/-- May `a` stand before `b`? Undefined numbers stand last. -/
def before (a b : α) : Bool :=
  !(Scalar.lt b a || (Scalar.isUndefined a && !Scalar.isUndefined b))

def ascending (values : List α) : List α := sortBy before values

/-- The place that a fraction points to in a list of a length; negative places count from the
end. -/
def place (length : Nat) (fraction : Value α) : Except Fault Nat := do
  if length = 0 then throw .noValues
  let i ← match fraction.number? with
    | some (.whole k) => pure (k * (length - 1 : Nat))
    | some (.real x) => (Scalar.floor (x * Scalar.ofNat (length - 1))).mapError NoWhole.fault
    | none => throw (.noOperation "*" fraction.typeName "int")
  if 0 ≤ i ∧ i < length then return i.toNat
  if -length ≤ i ∧ i < 0 then return (i + length).toNat
  throw (if Word.isSigned i then .indexRange else .indexSize)

/-- The value at the place that a fraction points to. -/
def percentile (values : List α) (fraction : Value α) : Except Fault α := do
  match values[← place values.length fraction]? with
  | some x => return x
  | none => throw .indexRange

def sum (values : List α) : Except Fault α :=
  (Scalar.sum values).mapError Decimal.NoSum.fault

/-- The sum of squares. A sum that grows too large is noticed before a later square that is too
large. -/
def sumOfSquares (values : List α) : Except Fault α :=
  let squares := (values.map Scalar.square?).takeWhile Option.isSome |>.filterMap (·)
  if squares.length = values.length then sum squares
  else
    match Scalar.sum squares with
    | .error .overflow => .error .sumOverflow
    | _ => .error .powerOverflow

/-- There is nothing to say about no values. -/
def empty : Distribution α :=
  { min := 0.0, max := 0.0, mean := 0.0, median := 0.0, deviation := 0.0, p5 := 0.0, p25 := 0.0
    p75 := 0.0, p95 := 0.0 }

def ofValues (values : List α) (buckets : Value α) : Except Fault (Distribution α) :=
  let sorted := ascending values
  match sorted.head?, sorted.getLast?, sorted[sorted.length / 2]? with
  | some min, some max, some median => do
    let n := Scalar.ofNat sorted.length
    let mean := (← sum sorted) / n
    let variance := (← sumOfSquares (sorted.map fun x => x - mean)) / n
    return {
      min, max, mean, median
      deviation := Scalar.sqrt variance
      p5 := ← percentile sorted (.real 0.05)
      p25 := ← percentile sorted (.real 0.25)
      p75 := ← percentile sorted (.real 0.75)
      p95 := ← percentile sorted (.real 0.95)
      histogram := ← Histogram.ofSorted sorted buckets
      count := sorted.length }
  | _, _, _ => .ok empty

end Distribution

end Dungeon
