import Dungeon.Decimal.Shortest

/-!
# Numerals

How digits are laid out as text. Each use of the library has its own layout record: `plain` writes
a number so that it reads back, `brief` writes bounds inside messages.
-/

namespace Dungeon.Decimal

/-- A layout: decimal exponents from `low` up to but not including `high` are written positionally,
all others with an exponent mark; `point` keeps `.0` on whole numbers. -/
structure Numeral where
  low : Int
  high : Int
  point : Bool

/-- The layout that reads back: positional from `1e-4` up to `1e16`, whole numbers keep `.0`. -/
def Numeral.plain : Numeral := ⟨-4, 16, true⟩

/-- The layout of bounds in messages: positional from `1e-4` up to `1e6`, no `.0`. -/
def Numeral.brief : Numeral := ⟨-4, 6, false⟩

/-- The written digits of a natural number. -/
def digitText (n : Nat) : List Char := (toString n).toList

/-- At least two digits and a sign. -/
def exponentText (e : Int) : List Char :=
  let ds := digitText e.natAbs
  (if e < 0 then '-' else '+') :: (if ds.length < 2 then '0' :: ds else ds)

/-- The digits `d` without a sign. -/
def Numeral.unsigned (layout : Numeral) (d : Digits) : List Char :=
  let ds := digitText d.digits
  let top : Int := ds.length + d.scale - 1
  if d.digits = 0 then if layout.point then "0.0".toList else ['0']
  else if layout.low ≤ top ∧ top < layout.high then
    if top < 0 then "0.".toList ++ List.replicate (-top - 1).toNat '0' ++ ds
    else
      let width := top.toNat + 1
      if ds.length ≤ width then
        ds ++ List.replicate (width - ds.length) '0' ++ (if layout.point then ".0".toList else [])
      else ds.take width ++ '.' :: ds.drop width
  else
    match ds with
    | [] => []
    | d :: [] => d :: 'e' :: exponentText top
    | d :: rest => d :: '.' :: rest ++ 'e' :: exponentText top

def signText (negative : Bool) (text : List Char) : String :=
  String.ofList (if negative then '-' :: text else text)

/-- Undefined and infinite numbers have names. -/
def nanText : String := "nan"

def infinityText (negative : Bool) : String := signText negative "inf".toList

/-- The text of a double in the fewest digits that read back. -/
def plainText (x : Float) : String :=
  match Binary64.ofFloat x with
  | .undefined => nanText
  | .infinite negative => infinityText negative
  | .finite negative 0 _ => signText negative (Numeral.plain.unsigned ⟨0, 0⟩)
  | .finite negative m e => signText negative (Numeral.plain.unsigned (shortest m e))

/-- The text of a double in at most six significant digits. -/
def briefText (x : Float) : String :=
  match Binary64.ofFloat x with
  | .undefined => nanText
  | .infinite negative => infinityText negative
  | .finite negative 0 _ => signText negative (Numeral.brief.unsigned ⟨0, 0⟩)
  | .finite negative m e =>
    let (n, d) := ratio m e
    signText negative (Numeral.brief.unsigned (rounded 6 n d))

/-- The text of a double with two places. -/
def fixedText (x : Float) : String :=
  match Binary64.ofFloat x with
  | .undefined => nanText
  | .infinite negative => infinityText negative
  | .finite negative m e =>
    let (n, d) := ratio m e
    let cents := fixed 2 n d
    let tail := digitText (cents % 100)
    signText negative (digitText (cents / 100) ++ '.' :: (if tail.length < 2 then '0' :: tail else tail))

end Dungeon.Decimal
