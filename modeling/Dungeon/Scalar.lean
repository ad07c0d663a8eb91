import Dungeon.Decimal.ExactSum
import Dungeon.Decimal.Numeral
import Dungeon.Decimal.Quotient

/-!
# Arithmetic

Rooms are measured, paths weighed and runs averaged in one arithmetic `α`. The generator runs with
doubles; its geometry is reasoned about with exact rationals. `Scalar` lists what both offer.
-/

namespace Dungeon

/-- Why a number has no integer part. -/
inductive NoWhole
  | undefined
  | infinite
  deriving DecidableEq

/-- An arithmetic. Comparisons are tests, since an undefined number compares with nothing. -/
class Scalar (α : Type) extends Add α, Sub α, Mul α, Div α, Neg α, OfScientific α where
  lt : α → α → Bool
  le : α → α → Bool
  eq : α → α → Bool
  /-- The order against an integer, `none` for an undefined number. -/
  compareInt : α → Int → Option Ordering
  /-- The number nearest to an integer, `none` when the integer is too large. -/
  ofInt? : Int → Option α
  /-- The number nearest to a quotient of integers, `none` when it is too large. -/
  ratio? : Int → Int → Option α
  /-- Is the integer a whole multiple of the number? -/
  divides : α → Int → Bool
  /-- The greatest integer at most the number. -/
  floor : α → Except NoWhole Int
  /-- The integer part, towards zero. -/
  truncate : α → Except NoWhole Int
  isFinite : α → Bool
  abs : α → α
  sqrt : α → α
  cos : α → α
  sin : α → α
  exp : α → α
  log : α → α
  power : α → α → α
  /-- The square, `none` when it is too large. -/
  square? : α → Option α
  pi : α
  /-- The sum of all terms, rounded once. -/
  sum : List α → Except Decimal.NoSum α
  /-- The fewest digits that read back. -/
  plainText : α → String
  /-- At most six significant digits. -/
  briefText : α → String
  /-- Two places. -/
  fixedText : α → String
  ofText? : String → Option α

namespace Scalar

variable {α : Type} [Scalar α]

/-- The smaller of two numbers, the first one when they do not differ. -/
def min (a b : α) : α := if lt b a then b else a

/-- The larger of two numbers, the first one when they do not differ. -/
def max (a b : α) : α := if lt a b then b else a

/-- A count as a number. -/
def ofNat (n : Nat) : α := OfScientific.ofScientific n false 0

def ofInt (n : Int) : α := if n < 0 then -ofNat n.natAbs else ofNat n.natAbs

/-- Does the number equal nothing, not even itself? -/
def isUndefined (a : α) : Bool := !eq a a

end Scalar

open Decimal

/-- Doubles. -/
instance : Scalar Float where
  lt a b := decide (a < b)
  le a b := decide (a ≤ b)
  eq a b := a == b
  compareInt x n := (Binary64.ofFloat x).compareInt n
  ofInt? n := let x := Float.ofInt n; if x.isFinite then some x else none
  ratio? := quotient?
  divides x n :=
    match Binary64.ofFloat x with
    | .finite _ m e => Binary64.dividesScaled m e n
    | _ => false
  floor x :=
    match Binary64.ofFloat x with
    | .undefined => .error .undefined
    | .infinite _ => .error .infinite
    | .finite negative m e => .ok (Binary64.floorScaled (Binary64.signed negative m) e)
  truncate x :=
    match Binary64.ofFloat x with
    | .undefined => .error .undefined
    | .infinite _ => .error .infinite
    | .finite negative m e => .ok (Binary64.truncateScaled (Binary64.signed negative m) e)
  isFinite := Float.isFinite
  abs := Float.abs
  sqrt := Float.sqrt
  cos := Float.cos
  sin := Float.sin
  exp := Float.exp
  log := Float.log
  power := Float.pow
  square? x := let y := x.pow 2.0; if y.isInf && x.isFinite then none else some y
  pi := Float.ofBits 0x400921FB54442D18
  sum := exactSum
  plainText := Decimal.plainText
  briefText := Decimal.briefText
  fixedText := Decimal.fixedText
  ofText? := readFloat?

end Dungeon
