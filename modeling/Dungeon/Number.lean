import Dungeon.Scalar

/-!
# Numbers as written

A number in a file is a whole number of any size or a number of the arithmetic `α`. The two kinds
compare by value and differ in how they are written back.
-/

namespace Dungeon

inductive Number (α : Type)
  | whole (n : Int)
  | real (x : α)

namespace Number

variable {α : Type} [Scalar α]

def lt : Number α → Number α → Bool
  | whole m, whole n => m < n
  | whole m, real y => Scalar.compareInt y m == some .gt
  | real x, whole n => Scalar.compareInt x n == some .lt
  | real x, real y => Scalar.lt x y

def eq : Number α → Number α → Bool
  | whole m, whole n => m == n
  | whole m, real y => Scalar.compareInt y m == some .eq
  | real x, whole n => Scalar.compareInt x n == some .eq
  | real x, real y => Scalar.eq x y

def le (a b : Number α) : Bool :=
  match a, b with
  | real x, real y => Scalar.le x y
  | a, b => lt a b || eq a b

/-- The number in the arithmetic, unless it is too large for it. -/
def toScalar? : Number α → Option α
  | whole n => Scalar.ofInt? n
  | real x => some x

def isFinite : Number α → Bool
  | whole _ => true
  | real x => Scalar.isFinite x

/-- The difference; whole numbers keep theirs exact. -/
def sub? : Number α → Number α → Option (Number α)
  | whole m, whole n => some (whole (m - n))
  | a, b => do
    let x ← a.toScalar?
    let y ← b.toScalar?
    return real (x - y)

def text : Number α → String
  | whole n => toString n
  | real x => Scalar.plainText x

end Number

end Dungeon
