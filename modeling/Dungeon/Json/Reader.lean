import Dungeon.Fault
import Dungeon.Word

/-!
# Reading JSON

A document is one value with blanks around it. Values nest at most `Json.maxDepth` deep; the reader
for a value hands itself, one level down, to the readers for lists and objects. A key given twice
keeps its first place and its last value.
-/

namespace Dungeon.Json

/-- A reader takes a value off the front of the text, or refuses. -/
abbrev Reader (β : Type) := List Char → Option (β × List Char)

def isBlank (c : Char) : Bool := c == ' ' || c == '\t' || c == '\n' || c == '\r'

def skipBlanks (cs : List Char) : List Char := cs.dropWhile isBlank

def isDigit (c : Char) : Bool := '0' ≤ c && c ≤ '9'

def digits (cs : List Char) : List Char × List Char := (cs.takeWhile isDigit, cs.dropWhile isDigit)

/-- The value of four hexadecimal digits at the front. -/
def hexUnit : Reader Nat
  | a :: b :: c :: d :: rest => do
    let digit (c : Char) : Option Nat :=
      if isDigit c then some (c.toNat - 0x30)
      else if 'a' ≤ c && c ≤ 'f' then some (c.toNat - 0x57)
      else if 'A' ≤ c && c ≤ 'F' then some (c.toNat - 0x37)
      else none
    let w ← digit a
    let x ← digit b
    let y ← digit c
    let z ← digit d
    return (((w * 16 + x) * 16 + y) * 16 + z, rest)
  | _ => none

/-- The character of a code unit; a high surrogate needs its low one behind it. -/
def unitChar (unit : Nat) (rest : List Char) : Option (Char × List Char) :=
  if 0xD800 ≤ unit && unit < 0xDC00 then
    match rest with
    | '\\' :: 'u' :: rest => do
      let (low, rest) ← hexUnit rest
      if 0xDC00 ≤ low && low < 0xE000 then
        return (Char.ofNat (0x10000 + (unit - 0xD800) * 0x400 + (low - 0xDC00)), rest)
      else none
    | _ => none
  else if 0xDC00 ≤ unit && unit < 0xE000 then none
  else some (Char.ofNat unit, rest)

/-- The character of an escape whose backslash has been read. -/
def escaped : Reader Char
  | '"' :: rest => some ('"', rest)
  | '\\' :: rest => some ('\\', rest)
  | '/' :: rest => some ('/', rest)
  | 'b' :: rest => some ('\x08', rest)
  | 'f' :: rest => some ('\x0c', rest)
  | 'n' :: rest => some ('\n', rest)
  | 'r' :: rest => some ('\r', rest)
  | 't' :: rest => some ('\t', rest)
  | 'u' :: rest => (hexUnit rest).bind fun (unit, rest) => unitChar unit rest
  | _ => none

/-- The characters up to the closing quote; `limit` bounds their number. -/
def stringBody : Nat → List Char → Reader String
  | 0, _, _ => none
  | _ + 1, done, '"' :: rest => some (String.ofList done.reverse, rest)
  | limit + 1, done, '\\' :: rest =>
    (escaped rest).bind fun (c, rest) => stringBody limit (c :: done) rest
  | limit + 1, done, c :: rest =>
    if c.toNat < 0x20 then none else stringBody limit (c :: done) rest
  | _ + 1, _, [] => none

def string (cs : List Char) : Option (String × List Char) := stringBody (cs.length + 1) [] cs

variable {α : Type} [Scalar α]

/-- The part after the point, with the point, and the exponent, with its mark. -/
def fraction : Reader (List Char)
  | '.' :: rest =>
    match digits rest with
    | ([], _) => none
    | (ds, rest) => some ('.' :: ds, rest)
  | cs => some ([], cs)

def exponent : Reader (List Char)
  | c :: rest =>
    if c == 'e' || c == 'E' then
      let (sign, body) :=
        match rest with
        | '-' :: body => (['-'], body)
        | '+' :: body => ([], body)
        | body => ([], body)
      match digits body with
      | ([], _) => none
      | (ds, rest) => some ('e' :: (sign ++ ds), rest)
    else some ([], c :: rest)
  | [] => some ([], [])

/-- A number as it is written; it is real when it has a point or an exponent. -/
def anyNumber (negative : Bool) (cs : List Char) : Option (Number α × List Char) := do
  let (whole, rest) := digits cs
  if whole.isEmpty || (whole.head? == some '0' && 1 < whole.length) then none
  let (part, rest) ← fraction rest
  let (power, rest) ← exponent rest
  if part.isEmpty && power.isEmpty then
    return (.whole (Decimal.withSign negative (Decimal.digitRun 0 0 whole).value), rest)
  else
    let sign := if negative then ['-'] else []
    let x ← Scalar.ofText? (String.ofList (sign ++ whole ++ part ++ power))
    return (.real x, rest)

/-- Which numbers a document may hold, and how it holds them. -/
abbrev Admission (α : Type) := Number α → Option (Number α)

/-- Every number is held as it is written. -/
def asWritten : Admission α := some

/-- Numbers as files hold them: a whole number beyond 64 bits is kept as a real one, and a real number
that is too large is refused. -/
def narrow : Admission α
  | .whole n => if Word.isWord n then some (.whole n) else (Scalar.ofInt? n).map .real
  | .real x => if Scalar.isFinite x then some (.real x) else none

/-- A number that a document may hold, without its sign. -/
def number (accept : Admission α) (negative : Bool) (cs : List Char) :
    Option (Value α × List Char) := do
  let (n, rest) ← anyNumber negative cs
  return (.num (← accept n), rest)

/-- A word, a text or a number. -/
def leaf (accept : Admission α) : Reader (Value α)
  | 'n' :: 'u' :: 'l' :: 'l' :: rest => some (.null, rest)
  | 't' :: 'r' :: 'u' :: 'e' :: rest => some (.bool true, rest)
  | 'f' :: 'a' :: 'l' :: 's' :: 'e' :: rest => some (.bool false, rest)
  | '"' :: rest => (string rest).map fun (s, rest) => (.text s, rest)
  | '-' :: rest => number accept true rest
  | cs => number accept false cs

/-- The items of a list behind its opening bracket, which is not closed at once. -/
def items (value : Reader (Value α)) : Nat → List (Value α) → Reader (List (Value α))
  | 0, _, _ => none
  | limit + 1, done, cs => do
    let (v, rest) ← value (skipBlanks cs)
    match skipBlanks rest with
    | ',' :: rest => items value limit (v :: done) rest
    | ']' :: rest => some ((v :: done).reverse, rest)
    | _ => none

/-- The fields of an object behind its opening bracket, which is not closed at once. -/
def fields (value : Reader (Value α)) :
    Nat → List (Value α × Value α) → Reader (List (Value α × Value α))
  | 0, _, _ => none
  | limit + 1, done, cs =>
    match skipBlanks cs with
    | '"' :: rest => do
      let (key, rest) ← string rest
      match skipBlanks rest with
      | ':' :: rest =>
        let (v, rest) ← value (skipBlanks rest)
        match skipBlanks rest with
        | ',' :: rest => fields value limit ((.text key, v) :: done) rest
        | '}' :: rest => some (((.text key, v) :: done).reverse, rest)
        | _ => none
      | _ => none
    | _ => none

/-- A value in which lists and objects nest at most `depth` deep. -/
def value (accept : Admission α) : Nat → Reader (Value α)
  | 0, cs =>
    match cs with
    | '[' :: _ => none
    | '{' :: _ => none
    | cs => leaf accept cs
  | depth + 1, cs =>
    match cs with
    | '[' :: rest =>
      match skipBlanks rest with
      | ']' :: rest => some (.list [], rest)
      | rest => (items (value accept depth) rest.length [] rest).map fun (vs, rest) => (.list vs, rest)
    | '{' :: rest =>
      match skipBlanks rest with
      | '}' :: rest => some (.object [], rest)
      | rest =>
        (fields (value accept depth) rest.length [] rest).map fun (ps, rest) =>
          (.object (Fields.ofPairs ps), rest)
    | cs => leaf accept cs

def maxDepth : Nat := 1024

/-- The value of a whole text. -/
def read? (accept : Admission α) (text : String) : Option (Value α) := do
  let (v, rest) ← value accept maxDepth (skipBlanks text.toList)
  if (skipBlanks rest).isEmpty then some v else none

/-- The value of a file's text. -/
def readFile (text : String) : Except Fault (Value α) :=
  match read? narrow text with
  | some v => .ok v
  | none => .error .unreadableJson

end Dungeon.Json
