import Dungeon.Value

/-!
# Mixed arithmetic

Numbers as written are an arithmetic of their own: whole numbers stay whole under sums, differences
and products, and everything else is computed in the arithmetic `α`. In it, coordinates and weights
that are given as whole numbers are reported as whole numbers.
-/

namespace Dungeon

variable {α : Type}

namespace Number

section
variable [Scalar α]

/-- The number in the arithmetic; one that is too large for it counts as infinite. -/
def nearest (n : Number α) : α :=
  match n.toScalar? with
  | some x => x
  | none => if n.lt (whole 0) then -infinite else infinite
where
  infinite : α := (Scalar.ofText? "inf").getD 0.0

/-- An operation that keeps whole numbers whole. -/
def mixed (onWhole : Int → Int → Int) (onReal : α → α → α) : Number α → Number α → Number α
  | whole m, whole n => whole (onWhole m n)
  | a, b => real (onReal a.nearest b.nearest)

def neg : Number α → Number α
  | whole n => whole (-n)
  | real x => real (-x)

def compareInt : Number α → Int → Option Ordering
  | whole m, n => some (compare m n)
  | real x, n => Scalar.compareInt x n

/-- The quotient, which is real; that of whole numbers is rounded once if it is not too large. -/
def div (a b : Number α) : Number α :=
  let rounded := real (a.nearest / b.nearest)
  match a, b with
  | whole m, whole n => ((Scalar.ratio? m n).map real).getD rounded
  | _, _ => rounded

def divides : Number α → Int → Bool
  | whole m, n => n % m == 0
  | real x, n => Scalar.divides x n

def floor : Number α → Except NoWhole Int
  | whole n => .ok n
  | real x => Scalar.floor x

def truncate : Number α → Except NoWhole Int
  | whole n => .ok n
  | real x => Scalar.truncate x

def abs : Number α → Number α
  | whole n => whole n.natAbs
  | real x => real (Scalar.abs x)

def square? : Number α → Option (Number α)
  | whole n => some (whole (n * n))
  | real x => (Scalar.square? x).map real

/-- A function of the arithmetic. -/
def through (f : α → α) (a : Number α) : Number α := real (f a.nearest)

end

instance [Scalar α] : Scalar (Number α) where
  add := mixed (· + ·) (· + ·)
  sub := mixed (· - ·) (· - ·)
  mul := mixed (· * ·) (· * ·)
  div := div
  neg := neg
  ofScientific m s e := real (OfScientific.ofScientific m s e)
  lt := lt
  le := le
  eq := eq
  compareInt := compareInt
  ofInt? n := (Scalar.ofInt? n).map real
  ratio? m n := (Scalar.ratio? m n).map real
  divides := divides
  floor := floor
  truncate := truncate
  isFinite := isFinite
  abs := abs
  sqrt := through Scalar.sqrt
  cos := through Scalar.cos
  sin := through Scalar.sin
  exp := through Scalar.exp
  log := through Scalar.log
  power a b := real (Scalar.power a.nearest b.nearest)
  square? := square?
  pi := real Scalar.pi
  sum ns := (Scalar.sum (ns.map nearest)).map real
  plainText := text
  briefText a := Scalar.briefText a.nearest
  fixedText a := Scalar.fixedText a.nearest
  ofText? s := (Scalar.ofText? s).map real

/-- A number of the mixed arithmetic. -/
def widen : Number α → Number (Number α)
  | whole n => whole n
  | real x => real (real x)

/-- A number of the mixed arithmetic as it is written. -/
def flat : Number (Number α) → Number α
  | whole n => whole n
  | real a => a

end Number

namespace Value

mutual

/-- A value with all its numbers replaced. -/
def mapNumbers {β : Type} (f : Number α → Number β) : Value α → Value β
  | .null => .null
  | .bool b => .bool b
  | .num n => .num (f n)
  | .text s => .text s
  | .moment m => .moment m
  | .list items => .list (mapItems f items)
  | .tuple items => .tuple (mapItems f items)
  | .object fields => .object (mapFields f fields)

def mapItems {β : Type} (f : Number α → Number β) : List (Value α) → List (Value β)
  | [] => []
  | v :: rest => mapNumbers f v :: mapItems f rest

def mapFields {β : Type} (f : Number α → Number β) :
    List (Value α × Value α) → List (Value β × Value β)
  | [] => []
  | (k, v) :: rest => (mapNumbers f k, mapNumbers f v) :: mapFields f rest

end

/-- A value whose numbers are to be computed with as they are written. -/
def widen : Value α → Value (Number α) := mapNumbers Number.widen

/-- What has been computed, as it is written. -/
def flat : Value (Number α) → Value α := mapNumbers Number.flat

end Value

end Dungeon
