import Dungeon.Yaml.Flow
import Dungeon.Text.Utf8

/-!
# Properties and directives

The names and tags that stand in front of nodes, and the lines in front of a document that say how
its tags are spelled.
-/

namespace Dungeon.Yaml

def isNameChar (c : Char) : Bool := c.isAlphanum || c == '-' || c == '_'

/-- The marks that may follow a name. -/
def afterName : List Char := "?:,]\x7d%@".toList ++ [Char.ofNat 0x60]

/-- A name behind its mark. -/
def name : Reader String := fun p =>
  let (cs, p) := p.step.span isNameChar
  if cs.isEmpty || !(endsWord (p.peek 0) || p.sees afterName) then .error marks
  else .ok (String.ofList cs, p)

/-- The short form of a prefix of tags: an exclamation mark, or a name between two. -/
def handle : Reader String := fun p =>
  if p.peek 0 != some '!' then .error marks
  else if p.peek 1 == some ' ' then .ok ("!", p.step)
  else
    let (cs, q) := p.step.span isNameChar
    if q.peek 0 == some '!' then .ok (String.ofList ('!' :: cs ++ ['!']), q.step) else .error marks

/-- The characters of tags, percent signs apart. -/
def isTagChar (c : Char) : Bool :=
  c.isAlphanum || c == singleQuote || "-;/?:@&=+$,_.!~*()[]".toList.contains c

/-- Bytes written as percent signs with two hexadecimal digits. -/
def tagBytes : Nat → List Nat → Reader (List Nat)
  | 0, _, _ => .error marks
  | limit + 1, done, p =>
    if p.peek 0 == some '%' then do
      let (n, p) ← code 2 p.step
      tagBytes limit (done ++ [n]) p
    else .ok (done, p)

/-- The characters of a tag. -/
def tagChars : Nat → List Char → Reader (List Char)
  | 0, _, _ => .error marks
  | limit + 1, done, p =>
    let (cs, p) := p.span isTagChar
    if p.peek 0 == some '%' then do
      let (bytes, p) ← tagBytes (p.rest.length + 1) [] p
      match Text.ofUtf8? bytes with
      | some more => tagChars limit (done ++ cs ++ more) p
      | none => throw marks
    else .ok (done ++ cs, p)

def tagText : Reader String := fun p => do
  let (cs, q) ← tagChars (p.rest.length + 1) [] p
  if q.index = p.index then throw marks else return (String.ofList cs, q)

/-- A tag: the short form of its prefix, if it has one, and the rest. -/
structure Tagging where
  handle : Option String
  suffix : String

/-- Is there a second exclamation mark in the word? -/
def hasHandle (cs : List Char) : Bool :=
  (cs.takeWhile fun c => !(c == ' ' || isBreak c)).contains '!'

def tagBody : Reader Tagging := fun p =>
  match p.peek 1 with
  | some '<' => do
    let (suffix, p) ← tagText (p.forward 2)
    if p.peek 0 == some '>' then return (⟨none, suffix⟩, p.step) else throw marks
  | c =>
    if endsWord c then .ok (⟨none, "!"⟩, p.step)
    else do
      let (handle, p) ← if hasHandle (p.rest.drop 1) then handle p else pure ("!", p.step)
      let (suffix, p) ← tagText p
      return (⟨some handle, suffix⟩, p)

def tagging : Reader Tagging := fun p => do
  let (t, p) ← tagBody p
  if endsMark (p.peek 0) then return (t, p) else throw marks

/-- A line in front of a document. -/
inductive Directive
  | version (major : Nat)
  | tags (handle start : String)
  | other

/-- The rest of a line that must hold nothing but a comment. -/
def emptyLine (p : Place) : Except Fault Place :=
  let p := p.skipBlanks.skipComment
  if endsLine (p.peek 0) then .ok p.lineBreak.2 else .error marks

def digits : Reader Nat := fun p =>
  let (cs, p) := p.span fun c => '0' ≤ c && c ≤ '9'
  if cs.isEmpty then .error marks else .ok (cs.foldl (fun n c => 10 * n + digitOf c) 0, p)

def versionBody : Reader Directive := fun p => do
  let (major, p) ← digits p.skipBlanks
  if p.peek 0 != some '.' then throw marks
  let (_, p) ← digits p.step
  if endsMark (p.peek 0) then return (.version major, p) else throw marks

def tagsBody : Reader Directive := fun p => do
  let (handle, p) ← handle p.skipBlanks
  if p.peek 0 != some ' ' then throw marks
  let (start, p) ← tagText p.skipBlanks
  if endsMark (p.peek 0) then return (.tags handle start, p) else throw marks

/-- A directive whose percent sign is in front. -/
def directive : Reader Directive := fun p => do
  let (cs, p) := p.step.span isNameChar
  if cs.isEmpty || !endsMark (p.peek 0) then throw marks
  let (d, p) ←
    if cs == "YAML".toList then versionBody p
    else if cs == "TAG".toList then tagsBody p
    else pure (.other, p.skip fun c => !isBreak c)
  return (d, ← emptyLine p)

end Dungeon.Yaml
