import Dungeon.Text.Blank
import Dungeon.Text.Digit

/-!
# Reading numbers

A written number may have blanks around it, a sign, and single underscores between digits. The
readers take the whole text or nothing.
-/

namespace Dungeon.Decimal

open Dungeon.Text

/-- A run of digits: its value, its length and what follows it. -/
structure DigitRun where
  value : Nat
  length : Nat
  rest : List Char

/-- Read on from the digits already seen. An underscore counts only between two digits. -/
def digitRun (value length : Nat) : List Char → DigitRun
  | [] => ⟨value, length, []⟩
  | c :: rest =>
    match digitValue c with
    | some d => digitRun (10 * value + d) (length + 1) rest
    | none =>
      let inside := c == '_' && 0 < length && (rest.head?.map isDigit).getD false
      if inside then digitRun value length rest else ⟨value, length, c :: rest⟩

/-- Split off a sign; the flag says that it is a minus. -/
def splitSign : List Char → Bool × List Char
  | '-' :: rest => (true, rest)
  | '+' :: rest => (false, rest)
  | cs => (false, cs)

/-- Why a text is no whole number. -/
inductive NoInteger
  | malformed
  /-- More digits than are read. -/
  | tooLong (digits : Nat)
  deriving DecidableEq

/-- The most digits of a whole number that is read or written. -/
def maxDigits : Nat := 4300

/-- Has a number no more digits than so many? -/
def fits : Nat → Nat → Bool
  | 0, n => n == 0
  | digits + 1, n => n == 0 || fits digits (n / 10)

def withSign (negative : Bool) (n : Nat) : Int := if negative then -(n : Int) else n

/-- A written integer. The digits are counted before what follows them is looked at. -/
def readInt (text : String) : Except NoInteger Int :=
  let (negative, body) := splitSign (trim isSpace text.toList)
  let run := digitRun 0 0 body
  if run.length = 0 ∨ run.rest.head? = some '_' then .error .malformed
  else if maxDigits < run.length then .error (.tooLong run.length)
  else if run.rest = [] then .ok (withSign negative run.value)
  else .error .malformed

def readInt? (text : String) : Option Int := (readInt text).toOption

/-- `digits · 10 ^ exponent` to the nearest double. Exponents far outside the range of doubles are
cut off first. -/
def nearest (digits : Nat) (exponent : Int) : Float :=
  let size : Int := (toString digits).length + exponent
  if digits = 0 ∨ size < -400 then Float.ofNat 0
  else if 400 < size then Float.ofScientific 1 false 400
  else Float.ofScientific digits (exponent < 0) exponent.natAbs

/-- The exponent after the digits: absent, or a mark followed by digits. -/
def readExponent : List Char → Option Int
  | [] => some 0
  | c :: rest =>
    if c == 'e' || c == 'E' then
      let (negative, body) := splitSign rest
      let run := digitRun 0 0 body
      if run.length = 0 ∨ run.rest ≠ [] then none
      else some (withSign negative run.value)
    else none

/-- A number without its sign. -/
def readUnsigned (cs : List Char) : Option Float :=
  let whole := digitRun 0 0 cs
  match whole.rest with
  | '.' :: rest =>
    let part := digitRun whole.value 0 rest
    if whole.length + part.length = 0 then none
    else (readExponent part.rest).map fun e => nearest part.value (e - part.length)
  | rest =>
    if whole.length = 0 then none else (readExponent rest).map (nearest whole.value)

def infinity : Float := Float.ofBits 0x7FF0000000000000

def undefinedFloat : Float := Float.ofBits 0x7FF8000000000000

/-- A written double, `inf` and `nan` included. -/
def readFloat? (text : String) : Option Float :=
  let (negative, body) := splitSign (trim isSpace text.toList)
  let name := String.ofList (body.map Char.toLower)
  let magnitude :=
    if name = "inf" ∨ name = "infinity" then some infinity
    else if name = "nan" then some undefinedFloat
    else readUnsigned body
  magnitude.map fun x => if negative then -x else x

end Dungeon.Decimal
