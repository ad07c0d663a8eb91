import Dungeon.Yaml.Literal

/-!
# Tokens

A text is cut into marks and scalars. Indentation becomes marks too: a block of lines begins with a
start mark and ends with an end mark. A key in front of a colon needs no mark of its own, so a token
that may turn out to be a key is remembered until a colon comes, or until the line or the reach of a
key ends. Where the text makes no sense a broken token ends the row; tokens that wait behind a
possible key are never seen then.
-/

namespace Dungeon.Yaml

inductive Token
  | directive (d : Directive)
  | documentStart
  | documentEnd
  | streamEnd
  | blockSequenceStart
  | blockMappingStart
  | blockEnd
  | sequenceStart
  | sequenceEnd
  | mappingStart
  | mappingEnd
  | blockEntry
  | flowEntry
  | key
  | value
  | alias (name : String)
  | anchor (name : String)
  | tag (t : Tagging)
  | scalar (text : String) (plain : Bool)
  /-- The text cannot be read from here on. -/
  | broken (f : Fault)

/-- A token that may be a key: its number, whether a colon must follow, and where it begins. -/
structure KeyStart where
  number : Nat
  required : Bool
  index : Nat
  line : Nat
  column : Nat

/-- How far a text has been cut. -/
structure Scan where
  place : Place
  tokens : List Token := []
  /-- How many brackets are open. -/
  depth : Int := 0
  indent : Int := -1
  /-- The indentations around the innermost one. -/
  outer : List Int := []
  /-- May a key without a mark begin here? -/
  keyAllowed : Bool := true
  /-- The possible keys by depth. -/
  keys : List (Int × KeyStart) := []

namespace Scan

/-- How many characters a key without a mark can have. -/
def keyReach : Nat := 1024

def inside (s : Scan) : Bool := s.depth != 0

def add (s : Scan) (t : Token) : Scan := { s with tokens := s.tokens ++ [t] }

/-- Put a token in front of the one with a number. -/
def addAt (s : Scan) (number : Nat) (t : Token) : Scan :=
  { s with tokens := s.tokens.take number ++ t :: s.tokens.drop number }

def forward (s : Scan) (n : Nat) : Scan := { s with place := s.place.forward n }

def allowKey (s : Scan) (allowed : Bool) : Scan := { s with keyAllowed := allowed }

/-- Is the key out of reach of a colon that comes now? -/
def isStale (s : Scan) (k : KeyStart) : Bool :=
  k.line != s.place.line || keyReach < s.place.index - k.index

/-- Forget the keys that are out of reach. -/
def dropStale (s : Scan) : Except Fault Scan :=
  if s.keys.any fun e => s.isStale e.2 && e.2.required then .error marks
  else .ok { s with keys := s.keys.filter fun e => !s.isStale e.2 }

def keyHere? (s : Scan) : Option KeyStart := s.keys.lookup s.depth

/-- Forget the possible key at this depth. -/
def dropKey (s : Scan) : Except Fault Scan :=
  if s.keyHere?.any KeyStart.required then .error marks
  else .ok { s with keys := s.keys.filter fun e => e.1 != s.depth }

/-- Remember the next token as a possible key. -/
def saveKey (s : Scan) : Except Fault Scan :=
  if s.keyAllowed then do
    let s ← s.dropKey
    let p := s.place
    let k : KeyStart := {
      number := s.tokens.length, required := !s.inside && s.indent == p.column
      index := p.index, line := p.line, column := p.column }
    return { s with keys := (s.depth, k) :: s.keys }
  else .ok s

/-- Close the blocks that are indented further than a column. -/
def closeBlocks (column : Int) : List Int → Scan → Scan
  | [], s => s
  | around :: outer, s =>
    if column < s.indent then
      closeBlocks column outer { s.add .blockEnd with indent := around, outer }
    else s

def unwind (s : Scan) (column : Int) : Scan :=
  if s.inside then s else closeBlocks column s.outer s

/-- Open a block at a column if it is indented further than the blocks around it. -/
def openBlock (s : Scan) (column : Nat) (number : Nat) (start : Token) : Scan :=
  if s.indent < column then
    { s.addAt number start with indent := column, outer := s.indent :: s.outer }
  else s

/-- Open a block at this place. -/
def openHere (s : Scan) (start : Token) : Scan :=
  s.openBlock s.place.column s.tokens.length start

/-- Go to the next mark or scalar, over blanks, comments and line ends. -/
def toNext : Nat → Scan → Scan
  | 0, s => s
  | limit + 1, s =>
    let p := s.place.skipBlanks.skipComment
    if (p.peek 0).any isBreak then
      toNext limit { s with place := p.lineBreak.2, keyAllowed := s.keyAllowed || !s.inside }
    else { s with place := p }

/-- Begin with a line of its own, behind all open blocks. -/
def fresh (s : Scan) : Except Fault Scan := do return (← (s.unwind (-1)).dropKey).allowKey false

/-- A mark of one character that opens or closes brackets. -/
def bracket (s : Scan) (t : Token) (opens : Bool) : Except Fault Scan := do
  let s ← if opens then s.saveKey else s.dropKey
  let s := { s with depth := if opens then s.depth + 1 else s.depth - 1, keyAllowed := opens }
  return (s.forward 1).add t

/-- A dash or a question mark that begins an entry of a block. -/
def entry (s : Scan) (start t : Token) (allows : Bool) : Except Fault Scan := do
  if !s.inside && !s.keyAllowed then throw marks
  let s := if s.inside then s else s.openHere start
  let s ← (s.allowKey allows).dropKey
  return (s.forward 1).add t

/-- The colon behind a key. -/
def colon (s : Scan) : Except Fault Scan := do
  let s ← match s.keyHere? with
    | some k =>
      let s := { s with keys := s.keys.filter fun e => e.1 != s.depth }
      let s := s.addAt k.number .key
      let s := if s.inside then s else s.openBlock k.column k.number .blockMappingStart
      pure (s.allowKey false)
    | none =>
      if !s.inside && !s.keyAllowed then throw marks
      let s := if s.inside then s else s.openHere .blockMappingStart
      (s.allowKey (!s.inside)).dropKey
  return (s.forward 1).add .value

/-- A token that can be a key and that a reader takes off the text. -/
def taken {β : Type} (s : Scan) (read : Reader β) (token : β → Token) : Except Fault Scan := do
  let s := (← s.saveKey).allowKey false
  let (x, place) ← read s.place
  return { s with place }.add (token x)

def quoted (double : Bool) : Reader (List Char) := fun p =>
  quotedText double (p.rest.length + 1) [] p.step

/-- A text without quotes. -/
def plain (s : Scan) : Except Fault Scan := do
  let s ← s.saveKey
  let w := plainText s.inside (s.indent + 1) s.place
  return { s with place := w.after, keyAllowed := w.newLine }.add
    (.scalar (String.ofList w.text) true)

/-- A text that keeps its lines. -/
def block (s : Scan) : Except Fault Scan := do
  let s ← (s.allowKey true).dropKey
  let (cs, place) ← literal s.indent s.place
  return { s with place }.add (.scalar (String.ofList cs) false)

/-- A mark between documents begins its line. -/
def documentMark? (p : Place) : Option Token :=
  if p.column = 0 && p.separates then
    some (if p.peek 0 == some '-' then .documentStart else .documentEnd)
  else none

/-- A token that begins with a character. -/
def token (s : Scan) (c : Char) : Except Fault Scan :=
  let next := s.place.peek 1
  let lone := endsWord next
  if c == '%' && s.place.column == 0 then do
    let s ← s.fresh
    let (d, place) ← directive s.place
    return { s with place }.add (.directive d)
  else
    match documentMark? s.place with
    | some t => do return ((← s.fresh).forward 3).add t
    | none =>
      if c == '[' then s.bracket .sequenceStart true
      else if c == '{' then s.bracket .mappingStart true
      else if c == ']' then s.bracket .sequenceEnd false
      else if c == '}' then s.bracket .mappingEnd false
      else if c == ',' then do
        return ((← (s.allowKey true).dropKey).forward 1).add .flowEntry
      else if c == '-' && lone then s.entry .blockSequenceStart .blockEntry true
      else if c == '?' && (s.inside || lone) then s.entry .blockMappingStart .key (!s.inside)
      else if c == ':' && (s.inside || lone) then s.colon
      else if c == '*' then s.taken name .alias
      else if c == '&' then s.taken name .anchor
      else if c == '!' then s.taken tagging .tag
      else if (c == '|' || c == '>') && !s.inside then s.block
      else if c == singleQuote then
        s.taken (quoted false) fun cs => .scalar (String.ofList cs) false
      else if c == '"' then s.taken (quoted true) fun cs => .scalar (String.ofList cs) false
      else if startsPlain s.inside s.place.rest then s.plain
      else .error marks

/-- Cut the next token off, together with the marks that come with it; nothing at the end. -/
def advance (s : Scan) : Except Fault (Option Scan × Scan) := do
  let s ← (toNext (s.place.rest.length + 1) s).dropStale
  let s := s.unwind s.place.column
  match s.place.peek 0 with
  | some c => return (some (← s.token c), s)
  | none => return (none, (← s.fresh).add .streamEnd)

/-- The tokens that are seen when the text cannot be read on. -/
def cutOff (s : Scan) (f : Fault) : List Token :=
  match (s.keys.map fun e => e.2.number).min? with
  | some n => s.tokens.take n ++ [.broken f]
  | none => s.tokens ++ [.broken f]

/-- Cut the whole text; every token takes a character at least. -/
def all : Nat → Scan → List Token
  | 0, s => s.cutOff marks
  | limit + 1, s =>
    match s.dropStale with
    | .error f => s.cutOff f
    | .ok s =>
      match s.advance with
      | .error f => s.cutOff f
      | .ok (some s, _) => all limit s
      | .ok (none, s) => s.tokens

end Scan

/-- The tokens of a text; the mark of byte order in front is none of them. -/
def tokens (text : List Char) : List Token :=
  let p : Place := { rest := text }
  let p := if p.peek 0 == some orderMark then p.step else p
  Scan.all (text.length + 1) { place := p }

end Dungeon.Yaml
