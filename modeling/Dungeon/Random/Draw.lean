import Dungeon.Conversion
import Dungeon.Word

/-!
# Draws

What nodes draw from their streams: numbers between bounds, trials, choices, samples of the unit
distributions, and weighted choices. `Source` says what a stream of draws offers; a failed draw
leaves the stream as the draws before the failure left it.
-/

namespace Dungeon

/-- A stream `σ` of draws in the arithmetic `α`. -/
class Source (σ : Type) (α : outParam Type) where
  /-- A number in `[0, 1)`. -/
  unit : σ → α × σ
  /-- A natural number from `0` to the given one. -/
  upTo : Nat → σ → Nat × σ

abbrev Draw (σ β : Type) := EStateM Fault σ β

/-- The cumulated sums of a list of numbers. -/
def cumulated {α : Type} [Scalar α] (sum : α) : List α → List α
  | [] => []
  | x :: rest => (sum + x) :: cumulated (sum + x) rest

/-- The order of search: undefined numbers come last. -/
def precedes {α : Type} [Scalar α] (a b : α) : Bool :=
  Scalar.lt a b || (!Scalar.eq b b && Scalar.eq a a)

/-- The first index between `low` and `high` at which `after` holds, by halving; `after` must not
stop holding. As many halvings as there are indices are enough. -/
def bisect (after : Nat → Bool) : Nat → Nat → Nat → Nat
  | 0, low, _ => low
  | halvings + 1, low, high =>
    if low < high then
      let middle := low + (high - low) / 2
      if after middle then bisect after halvings low middle
      else bisect after halvings (middle + 1) high
    else low

/-- How many entries of a sorted list are not after `key`. -/
def rightPosition {α : Type} [Scalar α] (entries : Array α) (key : α) : Nat :=
  bisect (fun i => (entries[i]?.map (precedes key)).getD true) entries.size 0 entries.size

/-- The cumulated weights, the last one replaced by their exact sum. -/
def cumulative {α : Type} [Scalar α] (weights : List α) (total : α) : List α :=
  (cumulated 0.0 weights).dropLast ++ [total]

/-- The index that a fraction of the total falls on. -/
def indexAt {α : Type} [Scalar α] (weights : List α) (total key : α) : Nat :=
  Nat.min (rightPosition (cumulative weights total).toArray key) (weights.length - 1)

/-- Is a weight below zero, infinite or undefined? -/
def improper {α : Type} [Scalar α] (w : Value α) : Except Fault Bool := do
  if ← Value.compare .lt w (.int 0) then return true
  return !Scalar.isFinite (← w.toReal)

/-- Weights scaled to sum to one. -/
def normalised {α : Type} [Scalar α] (weights : List (Value α)) : Except Fault (List α) := do
  if weights.isEmpty then throw .noWeights
  if ← weights.anyM improper then
    throw (.quoting weights (.improperWeights (Value.list weights).quoted))
  let reals ← weights.mapM Value.toReal
  let total ← (Scalar.sum reals).mapError Decimal.NoSum.fault
  if Scalar.le total 0.0 then throw .zeroWeights
  return reals.map (· / total)

namespace Draw

variable {σ α : Type} [Scalar α] [Source σ α]

/-- Carry a failed computation into the draws. -/
def lift {β : Type} (x : Except Fault β) : Draw σ β :=
  match x with
  | .ok v => pure v
  | .error f => throw f

/-- A number in `[0, 1)`. -/
def unit : Draw σ α := fun s => let (u, s) := Source.unit s; .ok u s

/-- A number from `a` up to but not including `b`, or `a` when the two are equal. -/
def between (a b : α) : Draw σ α := do
  if Scalar.lt b a then throw .reversedBounds
  let u ← unit
  return a + (b - a) * u

/-- A number between bounds of any kind. -/
def betweenValues (a b : Value α) : Draw σ α := do
  if ← lift (Value.compare .gt a b) then throw .reversedBounds
  let u ← unit
  lift (a.between b u)

/-- A whole number from `a` to `b`; both must be 64-bit numbers. -/
def integer (a b : Int) : Draw σ Int := do
  if b < a then throw .reversedBounds
  if a < Word.least then throw .lowBound
  if Word.greatest < b then throw .highBound
  fun s => let (n, s) := Source.upTo (b - a).toNat s; .ok (a + n) s

/-- A trial that succeeds with the given probability. -/
def chance (p : Value α) : Draw σ Bool := do
  let least ← lift (Value.compare .le (.real 0.0) p)
  let fits ← if least then lift (Value.compare .le p (.real 1.0)) else pure false
  if !fits then throw .probability
  let u ← unit
  lift (Value.compare .lt (.real u) p)

/-- One of the elements. -/
def choose {β : Type} (xs : List β) : Draw σ β := do
  if xs.isEmpty then throw .emptyChoice
  let i ← integer 0 (xs.length - 1 : Nat)
  match xs[i.toNat]? with
  | some x => return x
  | none => throw .indexRange

/-- The mean of four draws. -/
def bell : Draw σ α := do
  let a ← unit
  let b ← unit
  let c ← unit
  let d ← unit
  return (a + b + c + d) / 4.0

/-- The mean of two draws. -/
def triangle : Draw σ α := do
  let a ← unit
  let b ← unit
  return (a + b) * 0.5

def power (exponent : α) : Draw σ α := do
  if Scalar.le exponent 0.0 then throw .powerSign
  let u ← unit
  return Scalar.power u exponent

/-- The exponential distribution cut off at one. -/
def exponential (rate : α) : Draw σ α := do
  if Scalar.le rate 0.0 then throw .rateSign
  let u ← unit
  return -Scalar.log (1.0 - u * (1.0 - Scalar.exp (-rate))) / rate

/-- A number of the unit interval from a distribution given by name. The exponent and the rate count
only for the distributions that have them. -/
def distribution (name exponent rate : Value α) : Draw σ α := do
  match ← lift name.key with
  | .text "uniform" => unit
  | .text "bell" => bell
  | .text "triangle" => triangle
  | .text "power" => power (← lift exponent.toReal)
  | .text "exponential" => exponential (← lift rate.toReal)
  | name => throw (.quoting [name] (.unknownDistribution name.plain))

/-- An index drawn with probability proportional to its weight. -/
def weightedIndex (weights : List α) : Draw σ Nat := do
  if weights.isEmpty then throw .weightsEmpty
  if weights.any (Scalar.lt · 0.0) then throw .weightsNegative
  let total ← lift ((Scalar.sum weights).mapError Decimal.NoSum.fault)
  if Scalar.le total 0.0 then throw .weightSum
  let key ← between 0.0 total
  return indexAt weights total key

/-- A weighted index for weights of any kind. -/
def weightedValue (weights : List (Value α)) : Draw σ Nat := do
  if weights.isEmpty then throw .weightsEmpty
  if ← lift (weights.anyM fun w => Value.compare .lt w (.int 0)) then throw .weightsNegative
  weightedIndex (← lift (weights.mapM Value.toReal))

end Draw

end Dungeon
