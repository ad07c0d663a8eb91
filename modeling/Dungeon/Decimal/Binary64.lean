/-!
# Doubles as exact numbers

A finite double is `± mantissa · 2 ^ exponent`. Everything that must be exact about a double
(its order against the integers, its floor, its digits) is computed on these fields.
-/

namespace Dungeon.Decimal

/-- A double taken apart. -/
inductive Binary64
  /-- Not a number. -/
  | undefined
  | infinite (negative : Bool)
  /-- The number `mantissa · 2 ^ exponent`, or its opposite when `negative`. -/
  | finite (negative : Bool) (mantissa : Nat) (exponent : Int)
  deriving DecidableEq

namespace Binary64

/-- The bit that a normal mantissa has in front of its stored ones. -/
def hiddenBit : Nat := 0x10000000000000

def signBit : Nat := 0x8000000000000000

def ofFloat (x : Float) : Binary64 :=
  let word := x.toBits.toNat
  let negative := decide (signBit ≤ word)
  let exponent : Nat := word / hiddenBit % 2048
  let fraction := word % hiddenBit
  if exponent = 2047 then
    if fraction = 0 then .infinite negative else .undefined
  else if exponent = 0 then .finite negative fraction (-1074)
  else .finite negative (fraction + hiddenBit) ((exponent : Int) - 1075)

/-- The signed mantissa. -/
def signed (negative : Bool) (mantissa : Nat) : Int :=
  if negative then -(mantissa : Int) else mantissa

/-- The order of `mantissa · 2 ^ exponent` against an integer. -/
def compareScaled (mantissa : Int) (exponent : Int) (n : Int) : Ordering :=
  if 0 ≤ exponent then compare (mantissa * (Nat.pow 2 exponent.toNat : Nat)) n
  else compare mantissa (n * (Nat.pow 2 (-exponent).toNat : Nat))

/-- The order of a double against an integer, exact for integers of any size. -/
def compareInt : Binary64 → Int → Option Ordering
  | .undefined, _ => none
  | .infinite negative, _ => some (if negative then .lt else .gt)
  | .finite negative m e, n => some (compareScaled (signed negative m) e n)

/-- The greatest integer at most `mantissa · 2 ^ exponent`. -/
def floorScaled (mantissa : Int) (exponent : Int) : Int :=
  if 0 ≤ exponent then mantissa * (Nat.pow 2 exponent.toNat : Nat)
  else Int.fdiv mantissa (Nat.pow 2 (-exponent).toNat : Nat)

/-- The integer part of `mantissa · 2 ^ exponent`, towards zero. -/
def truncateScaled (mantissa : Int) (exponent : Int) : Int :=
  if 0 ≤ exponent then mantissa * (Nat.pow 2 exponent.toNat : Nat)
  else Int.tdiv mantissa (Nat.pow 2 (-exponent).toNat : Nat)

/-- Is `n` a whole multiple of `mantissa · 2 ^ exponent`? -/
def dividesScaled (mantissa : Nat) (exponent : Int) (n : Int) : Bool :=
  mantissa != 0 &&
    if 0 ≤ exponent then n % (mantissa * Nat.pow 2 exponent.toNat : Nat) == 0
    else n * (Nat.pow 2 (-exponent).toNat : Nat) % mantissa == 0

end Binary64

end Dungeon.Decimal
