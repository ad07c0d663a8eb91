import Dungeon.Yaml.Property

/-!
# Texts that keep their lines

A text behind a bar or an angle bracket goes on as long as its lines are indented. Behind a bar its
line ends are kept; behind an angle bracket those between lines that do not start with a blank are
folded.
-/

namespace Dungeon.Yaml

/-- What is said of a text in front of its lines: what becomes of the line ends behind it, and how
far it is indented. -/
structure Header where
  keepsEnd : Option Bool := none
  indent : Option Nat := none

def chomping? (c : Option Char) : Option Bool :=
  match c with
  | some '+' => some true
  | some '-' => some false
  | _ => none

/-- A digit for the indentation, if there is one; zero is none. -/
def indentation : Reader (Option Nat) := fun p =>
  match p.peek 0 with
  | some c =>
    if c == '0' then .error marks
    else if '0' < c && c ≤ '9' then .ok (some (digitOf c), p.step)
    else .ok (none, p)
  | none => .ok (none, p)

def header : Reader Header := fun p => do
  let (h, p) ← match chomping? (p.peek 0) with
    | some keeps => do
      let (indent, p) ← indentation p.step
      pure (({ keepsEnd := some keeps, indent } : Header), p)
    | none => do
      let (indent, p) ← indentation p
      match indent, chomping? (p.peek 0) with
      | some _, some keeps => pure (({ keepsEnd := some keeps, indent } : Header), p.step)
      | _, _ => pure (({ indent } : Header), p)
  if endsMark (p.peek 0) then return (h, p) else throw marks

/-- Skip blanks up to a column. -/
def skipTo (column : Nat) : Nat → Place → Place
  | 0, p => p
  | limit + 1, p =>
    if p.column < column && p.peek 0 == some ' ' then skipTo column limit p.step else p

/-- The empty lines in front, and the place where a line may begin. -/
def emptyLines (column : Nat) : Nat → List Char → Place → List Char × Place
  | 0, done, p => (done, p)
  | limit + 1, done, p =>
    let p := skipTo column p.rest.length p
    if (p.peek 0).any isBreak then
      let (cs, p) := p.lineBreak
      emptyLines column limit (done ++ cs) p
    else (done, p)

/-- The empty lines in front of the first line, and how far blanks reach there. -/
def firstLines : Nat → List Char → Nat → Place → List Char × Nat × Place
  | 0, done, widest, p => (done, widest, p)
  | limit + 1, done, widest, p =>
    if p.peek 0 == some ' ' then
      let p := p.step
      firstLines limit done (Nat.max widest p.column) p
    else if (p.peek 0).any isBreak then
      let (cs, p) := p.lineBreak
      firstLines limit (done ++ cs) widest p
    else (done, widest, p)

/-- The lines of a text so far: all but the last line end, the last one, and the empty lines behind
it. -/
structure Lines where
  text : List Char := []
  lineEnd : List Char := []
  empty : List Char

def startsBlank (p : Place) : Bool := p.sees [' ', '\t']

/-- The lines that begin at a column. -/
def lines (folds : Bool) (column : Nat) : Nat → Lines → Place → Lines × Place
  | 0, l, p => (l, p)
  | limit + 1, l, p =>
    if p.column = column && (p.peek 0).isSome then
      let blank := startsBlank p
      let (cs, p) := p.span fun c => !isBreak c
      let (lineEnd, p) := p.lineBreak
      let text := l.text ++ l.empty ++ cs
      let (empty, p) := emptyLines column (p.rest.length + 1) [] p
      if p.column = column && (p.peek 0).isSome then
        let joint :=
          if folds && lineEnd == ['\n'] && !blank && !startsBlank p then
            if empty.isEmpty then [' '] else []
          else lineEnd
        lines folds column limit ⟨text ++ joint, lineEnd, empty⟩ p
      else (⟨text, lineEnd, empty⟩, p)
    else (l, p)

/-- The text with the line ends behind it that are kept: one, all or none. -/
def Lines.chomped (l : Lines) (keepsEnd : Option Bool) : List Char :=
  match keepsEnd with
  | none => l.text ++ l.lineEnd
  | some true => l.text ++ l.lineEnd ++ l.empty
  | some false => l.text

/-- A text that keeps its lines, its mark in front; `indent` is the indentation around it. -/
def literal (indent : Int) : Reader (List Char) := fun p => do
  let folds := p.peek 0 == some '>'
  let (h, p) ← header p.step
  let p ← emptyLine p
  let least := Nat.max 1 (indent + 1).toNat
  let (empty, column, p) :=
    match h.indent with
    | none =>
      let (empty, widest, p) := firstLines (p.rest.length + 1) [] 0 p
      (empty, Nat.max least widest, p)
    | some n =>
      let column := least + n - 1
      let (empty, p) := emptyLines column (p.rest.length + 1) [] p
      (empty, column, p)
  let (l, p) := lines folds column (p.rest.length + 1) { empty } p
  return (l.chomped h.keepsEnd, p)

end Dungeon.Yaml
