import Dungeon.Decimal.Binary64

/-!
# Quotients of whole numbers

The double nearest to a quotient of whole numbers of any size. The quotient is cut off at the last
bit that a double of its magnitude has; the remainder decides the rounding, and a tie goes to the
even neighbour.
-/

namespace Dungeon.Decimal

/-- The position of the first bit of `n / d`, both positive. -/
def topBit (n d : Nat) : Int :=
  let guess : Int := (Nat.log2 n : Int) - Nat.log2 d
  let reached :=
    if 0 ≤ guess then Nat.pow 2 guess.toNat * d ≤ n else d ≤ Nat.pow 2 (-guess).toNat * n
  if reached then guess else guess - 1

/-- The position of the last bit of a double whose first bit is at `top`. -/
def lastBit (top : Int) : Int := max (top - 52) (-1074)

/-- `n / d` to the nearest whole number; a tie goes to the even one. -/
def roundedQuotient (n d : Nat) : Nat :=
  let q := n / d
  let twice := 2 * (n % d)
  if d < twice || (twice == d && q % 2 == 1) then q + 1 else q

/-- The double `q · 2 ^ last`, where `q` has no more bits than a double. -/
def assemble (q : Nat) (last : Int) : Float :=
  if q < Binary64.hiddenBit then Float.ofBits q.toUInt64
  else Float.ofBits ((last + 1074).toNat * Binary64.hiddenBit + q).toUInt64

/-- The double nearest to `n / d` for a positive `d`, unless it is too large. -/
def nearestRatio? (n d : Nat) : Option Float :=
  if n = 0 then some (Float.ofNat 0)
  else
    let top := topBit n d
    let last := lastBit top
    let q :=
      if 0 ≤ last then roundedQuotient n (Nat.pow 2 last.toNat * d)
      else roundedQuotient (Nat.pow 2 (-last).toNat * n) d
    if 1023 < top then none
    else
      let x := assemble q last
      if x.isFinite then some x else none

/-- The double nearest to a quotient of whole numbers; the divisor is not zero. -/
def quotient? (n d : Int) : Option Float :=
  let negative := decide (n < 0) != decide (d < 0)
  (nearestRatio? n.natAbs d.natAbs).map fun x => if negative then -x else x

end Dungeon.Decimal
