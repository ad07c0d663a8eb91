import Dungeon.Fault
import Dungeon.Word

/-!
# Writing JSON

Values as JSON text, compact or indented. Numbers that JSON cannot write become null in a report,
and whole numbers beyond 64 bits are refused there.
-/

namespace Dungeon.Json

def shortEscape? (c : Char) : Option Char :=
  if c = '"' ∨ c = '\\' then some c
  else if c = '\n' then some 'n'
  else if c = '\r' then some 'r'
  else if c = '\t' then some 't'
  else if c = '\x08' then some 'b'
  else if c = '\x0c' then some 'f'
  else none

def hexDigit (n : Nat) : Char := Nat.digitChar (n % 16)

/-- One character of a text in quotes. -/
def charText (c : Char) : List Char :=
  match shortEscape? c with
  | some e => ['\\', e]
  | none =>
    if c.toNat < 0x20 then
      ['\\', 'u', '0', '0', hexDigit (c.toNat / 16), hexDigit c.toNat]
    else [c]

def quoted (s : String) : String :=
  "\"" ++ String.ofList (s.toList.flatMap charText) ++ "\""

variable {α : Type} [Scalar α]

mutual

/-- Compact text. -/
def compact : Value α → String
  | .null => "null"
  | .bool true => "true"
  | .bool false => "false"
  | .num n => n.text
  | .text s => quoted s
  | .moment m => quoted m.reported
  | .list vs => "[" ++ ",".intercalate (compactItems vs) ++ "]"
  | .tuple vs => "[" ++ ",".intercalate (compactItems vs) ++ "]"
  | .object ps => "\x7b" ++ ",".intercalate (compactFields ps) ++ "\x7d"

def compactItems : List (Value α) → List String
  | [] => []
  | v :: rest => compact v :: compactItems rest

/-- Keys are written as the texts they stand for. -/
def compactFields : List (Value α × Value α) → List String
  | [] => []
  | (k, v) :: rest => (quoted k.plain ++ ":" ++ compact v) :: compactFields rest

end

/-- The start of a line at a depth of nesting. -/
def newline (depth : Nat) : String := "\n" ++ String.ofList (List.replicate (2 * depth) ' ')

/-- Lines between two brackets. -/
def block (depth : Nat) (opening closing : String) : List String → String
  | [] => opening ++ closing
  | lines =>
    opening ++ newline (depth + 1) ++ ("," ++ newline (depth + 1)).intercalate lines ++
      newline depth ++ closing

mutual

/-- Text with two blanks of indentation per level. -/
def indented (depth : Nat) : Value α → String
  | .list vs => block depth "[" "]" (indentedItems (depth + 1) vs)
  | .tuple vs => block depth "[" "]" (indentedItems (depth + 1) vs)
  | .object ps => block depth "\x7b" "\x7d" (indentedFields (depth + 1) ps)
  | v => compact v

def indentedItems (depth : Nat) : List (Value α) → List String
  | [] => []
  | v :: rest => indented depth v :: indentedItems depth rest

def indentedFields (depth : Nat) : List (Value α × Value α) → List String
  | [] => []
  | (k, v) :: rest => (quoted k.plain ++ ": " ++ indented depth v) :: indentedFields depth rest

end

/-- A report is refused for the reason given. -/
def refused {β : Type} (reason : String) : Except Fault β := .error (.arguments reason)

/-- How deep lists and objects with content may nest in a report. -/
def maxNesting : Nat := 254

mutual

/-- A value as reports hold it: infinite and undefined numbers are null, moments texts. A whole number
that needs more than 64 bits, a key that is no text, and content nested more than `room` deep are
refused. -/
def reportable (room : Nat) : Value α → Except Fault (Value α)
  | .num (.whole n) =>
    if Word.isWord n then .ok (.int n) else refused "Integer exceeds 64-bit range"
  | .num (.real x) => .ok (if Scalar.isFinite x then .real x else .null)
  | .moment m => .ok (.text m.reported)
  | .list vs => (reportableItems room vs).map .list
  | .tuple vs => (reportableItems room vs).map .list
  | .object ps => (reportableFields room ps).map .object
  | v => .ok v

def reportableItems (room : Nat) : List (Value α) → Except Fault (List (Value α))
  | [] => .ok []
  | v :: rest =>
    match room with
    | 0 => refused "Recursion limit reached"
    | below + 1 => do
      let v ← reportable below v
      let rest ← reportableItems (below + 1) rest
      return v :: rest

def reportableFields (room : Nat) : List (Value α × Value α) → Except Fault (Fields α)
  | [] => .ok []
  | (k, v) :: rest =>
    match room, k with
    | 0, _ => refused "Recursion limit reached"
    | below + 1, .text s => do
      let v ← reportable below v
      let rest ← reportableFields (below + 1) rest
      return (.text s, v) :: rest
    | _, _ => refused "Dict key must be str"

end

end Dungeon.Json
