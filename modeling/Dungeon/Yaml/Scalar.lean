import Dungeon.Conversion
import Dungeon.Text.Case
import Dungeon.Yaml.Place
import Dungeon.Yaml.Tag

/-!
# Values of scalars

The value of a text whose tag is known. A tag can be given to any text, so every reader here has a
fault for texts of another form.
-/

namespace Dungeon.Yaml

/-- Nodes make no sense as values. -/
def values : Fault := .unreadableYaml .values

/-- The digits without the underscores between them. -/
def unpadded (s : String) : String := String.ofList (s.toList.filter (· != '_'))

/-- The value of a digit, a letter being one from ten on. -/
def digitValue (c : Char) : Option Nat :=
  if 'a' ≤ c && c ≤ 'z' then some (c.toNat - 0x57)
  else if 'A' ≤ c && c ≤ 'Z' then some (c.toNat - 0x37)
  else Text.digitValue c

/-- Digits of a base, at least one; single underscores may stand between them. -/
def ofDigits? (base : Nat) (cs : List Char) : Option Nat :=
  if cs.isEmpty then none
  else do
    let ds ← cs.mapM digitValue
    if ds.all (· < base) then return ds.foldl (fun n d => base * n + d) 0 else none

/-- The letter that may stand behind a zero in front of the digits of a base. -/
def baseLetters : List (Nat × List Char) := [(2, ['b', 'B']), (8, ['o', 'O']), (16, ['x', 'X'])]

def withoutBase (base : Nat) (cs : List Char) : List Char :=
  match cs with
  | '0' :: c :: rest =>
    if ((baseLetters.lookup base).getD []).contains c then rest else cs
  | cs => cs

/-- A whole number in the digits of a base. -/
def inBase (base : Nat) (cs : List Char) : Except Fault Int :=
  let (negative, body) := signed (Text.trim Text.isSpace cs)
  match ofDigits? base (withoutBase base body) with
  | some n => .ok (Decimal.withSign negative n)
  | none =>
    let quoted := (Text.quote (String.ofList cs)).take Value.quotedLength
    .error (.unreadableDigits base quoted.toString)

def decimal (cs : List Char) : Except Fault Int :=
  let s := String.ofList cs
  (Decimal.readInt s).mapError (Value.unreadable s)

/-- A whole number without its sign. -/
def natural (cs : List Char) : Except Fault Int :=
  match cs with
  | [] => .error .noCharacter
  | ['0'] => .ok 0
  | '0' :: 'b' :: ds => inBase 2 ds
  | '0' :: 'x' :: ds => inBase 16 ds
  | '0' :: _ => inBase 8 cs
  | cs =>
    if cs.contains ':' then do
      let ns ← (parts cs).mapM decimal
      return ns.foldl (fun sum n => 60 * sum + n) 0
    else decimal cs

def wholeOf (s : String) : Except Fault Int := do
  let cs := (unpadded s).toList
  if cs.isEmpty then throw .noCharacter
  let (negative, body) := signed cs
  let n ← natural body
  return if negative then -n else n

variable {α : Type} [Scalar α]

def realPart (cs : List Char) : Except Fault α := (Value.text (String.ofList cs)).toReal

/-- The sum of sexagesimal parts, from the last one on; `unit` is what its value counts. -/
def sexagesimal : Int → α → List α → Except Fault α
  | _, sum, [] => .ok sum
  | unit, sum, x :: rest =>
    match Scalar.ofInt? unit with
    | some u => sexagesimal (60 * unit) (sum + x * u) rest
    | none => .error .tooLarge

/-- A real number without its sign. -/
def magnitude (cs : List Char) : Except Fault α :=
  if cs == ".inf".toList then realPart "inf".toList
  else if cs.contains ':' then do
    let xs ← (parts cs).mapM realPart
    sexagesimal 1 (0.0 : α) xs.reverse
  else realPart cs

def realOf (s : String) : Except Fault α := do
  let cs := (Text.lower (unpadded s)).toList
  if cs.isEmpty then throw .noCharacter
  let (negative, body) := signed cs
  if body == ".nan".toList then realPart "nan".toList
  else
    let x ← magnitude body
    return if negative then -x else x

def trueWords : List String := ["yes", "true", "on"]

def falseWords : List String := ["no", "false", "off"]

def truthOf (s : String) : Except Fault Bool :=
  let word := Text.lower s
  if trueWords.contains word then .ok true
  else if falseWords.contains word then .ok false
  else .error (.missingKey (Text.quote word))

def momentOf (s : String) : Except Fault Moment :=
  match Moment.read? (lineOf s.toList) with
  | none => .error (.noMember "NoneType" "day")
  | some m =>
    match m.problem? with
    | some what => .error (.dateRange what)
    | none => .ok m

/-- The value of a text with a tag of scalars. -/
def Tag.scalar (tag : Tag) (s : String) : Except Fault (Value α) :=
  match tag with
  | .null => .ok .null
  | .bool => .bool <$> truthOf s
  | .int => .int <$> wholeOf s
  | .float => .real <$> realOf s
  | .moment => .moment <$> momentOf s
  | .str => .ok (.text s)
  | _ => .error values

end Dungeon.Yaml
