import Dungeon.Decimal.Binary64

/-!
# Decimal digits of doubles

`shortest` gives the fewest digits that read back as the same double and, among those, the
nearest to it; `rounded` gives a fixed number of significant digits and `fixed` a fixed number of
places, both rounded from the exact value with ties to the even digit.

All three work on a positive number `num / den` in exact natural arithmetic.
-/

namespace Dungeon.Decimal

/-- The number `digits · 10 ^ scale`. -/
structure Digits where
  digits : Nat
  scale : Int
  deriving DecidableEq

/-- `num · 10 ^ (-k) / den` as a pair of naturals. -/
def scaleDown (num den : Nat) (k : Int) : Nat × Nat :=
  if 0 ≤ k then (num, den * Nat.pow 10 k.toNat) else (num * Nat.pow 10 (-k).toNat, den)

/-- `num / den` rounded to the nearest natural, a half to the even neighbour. -/
def roundDiv (num den : Nat) : Nat :=
  let q := num / den
  let r := num % den
  if 2 * r < den then q
  else if den < 2 * r then q + 1
  else if q % 2 = 0 then q else q + 1

/-- The `e` with `10 ^ e ≤ num / den < 10 ^ (e + 1)`, for positive `num` and `den`. -/
def magnitude (num den : Nat) : Int :=
  let guess : Int := ((num.log2 : Int) - (den.log2 : Int)) * 30103 / 100000
  let atLeast (e : Int) : Bool := let (n, d) := scaleDown num den e; d ≤ n
  if atLeast (guess + 2) then guess + 2
  else if atLeast (guess + 1) then guess + 1
  else if atLeast guess then guess
  else if atLeast (guess - 1) then guess - 1
  else guess - 2

/-- Drop trailing zeros of the digits, at most `fuel` of them. -/
def Digits.trim : Nat → Digits → Digits
  | 0, d => d
  | fuel + 1, d =>
    if d.digits ≠ 0 ∧ d.digits % 10 = 0 then Digits.trim fuel ⟨d.digits / 10, d.scale + 1⟩ else d

/-- `mantissa · 2 ^ exponent` as a quotient. -/
def ratio (mantissa : Nat) (exponent : Int) : Nat × Nat :=
  if 0 ≤ exponent then (mantissa * Nat.pow 2 exponent.toNat, 1)
  else (mantissa, Nat.pow 2 (-exponent).toNat)

/-- The numbers that read back as `mantissa · 2 ^ exponent`: between `low / den` and `high / den`,
ends included when the mantissa is even. -/
structure Neighbourhood where
  low : Nat
  value : Nat
  high : Nat
  den : Nat
  closed : Bool

/-- The gap below is half as wide at the first mantissa of a binade, the lowest one apart. -/
def neighbourhood (mantissa : Nat) (exponent : Int) : Neighbourhood :=
  let narrow := mantissa = Binary64.hiddenBit ∧ exponent ≠ -1074
  let m := 4 * mantissa
  let below := if narrow then 1 else 2
  let (unit, den) := ratio 1 (exponent - 2)
  ⟨(m - below) * unit, m * unit, (m + 2) * unit, den, mantissa % 2 = 0⟩

/-- Is `candidate · 10 ^ k` in the neighbourhood? -/
def Neighbourhood.holds (v : Neighbourhood) (k : Int) (candidate : Nat) : Bool :=
  let (n, d) := if 0 ≤ k then (candidate * Nat.pow 10 k.toNat * v.den, 1)
    else (candidate * v.den, Nat.pow 10 (-k).toNat)
  if v.closed then v.low * d ≤ n && n ≤ v.high * d else v.low * d < n && n < v.high * d

/-- The digits on the grid of multiples of `10 ^ k`, when one of the two next to the value reads
back. -/
def Neighbourhood.onGrid (v : Neighbourhood) (k : Int) : Option Nat :=
  let (n, d) := scaleDown v.value v.den k
  let q := n / d
  match v.holds k q, v.holds k (q + 1) with
  | true, true => some (roundDiv n d)
  | true, false => some q
  | false, true => some (q + 1)
  | false, false => none

/-- The first grid with a hit, from `k` downwards. -/
def Neighbourhood.search (v : Neighbourhood) : Nat → Int → Digits
  | 0, k => ⟨v.value * Nat.pow 10 (-k).toNat / v.den, k⟩
  | fuel + 1, k =>
    match v.onGrid k with
    | some d => ⟨d, k⟩
    | none => v.search fuel (k - 1)

/-- The fewest digits that read back as the positive double `mantissa · 2 ^ exponent`. -/
def shortest (mantissa : Nat) (exponent : Int) : Digits :=
  let v := neighbourhood mantissa exponent
  (v.search 17 (magnitude v.value v.den)).trim 20

/-- `count` significant digits of a positive number, without trailing zeros. -/
def rounded (count : Nat) (num den : Nat) : Digits :=
  let k := magnitude num den - (count - 1 : Nat)
  let (n, d) := scaleDown num den k
  Digits.trim (count + 1) ⟨roundDiv n d, k⟩

/-- A number in units of `10 ^ (-places)`. -/
def fixed (places : Nat) (num den : Nat) : Nat :=
  roundDiv (num * Nat.pow 10 places) den

end Dungeon.Decimal
