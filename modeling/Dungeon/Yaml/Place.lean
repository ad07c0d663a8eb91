import Dungeon.Fault

/-!
# Places in a text

A place is what is left of a text, with the number of characters in front of it, its line and its
column. The readers of marks and scalars take a place and give back the one behind what they read.
-/

namespace Dungeon.Yaml

/-- The text makes no sense as marks and scalars. -/
def marks : Fault := .unreadableYaml .marks

/-- Marks and scalars stand in the wrong order. -/
def grammar : Fault := .unreadableYaml .grammar

def isBreak (c : Char) : Bool :=
  c == '\n' || c == '\r' || c == '\x85' || c == '\u2028' || c == '\u2029'

def isGap (c : Char) : Bool := c == ' ' || c == '\t' || isBreak c

/-- Is this the end of the text or of a line? -/
def endsLine (c : Option Char) : Bool := c.all isBreak

/-- Is this the end of the text, of a line or of a word? -/
def endsWord (c : Option Char) : Bool := c.all isGap

/-- Is this the end of the text or of a line, or a blank that is no tab? -/
def endsMark (c : Option Char) : Bool := c.all fun c => c == ' ' || isBreak c

/-- The mark of byte order, which has no width. -/
def orderMark : Char := Char.ofNat 0xFEFF

structure Place where
  rest : List Char
  index : Nat := 0
  line : Nat := 0
  column : Nat := 0

namespace Place

/-- The character `n` places ahead. -/
def peek (p : Place) (n : Nat) : Option Char := p.rest[n]?

/-- The next character, if it is one of the given ones. -/
def sees (p : Place) (cs : List Char) : Bool := (p.peek 0).any cs.contains

/-- Go behind the next character. A carriage return in front of a line feed does not end the line. -/
def step (p : Place) : Place :=
  match p.rest with
  | [] => p
  | c :: rest =>
    let p := { p with rest, index := p.index + 1 }
    if isBreak c && !(c == '\r' && rest.head? == some '\n') then
      { p with line := p.line + 1, column := 0 }
    else if c == orderMark then p
    else { p with column := p.column + 1 }

def forward (p : Place) : Nat → Place
  | 0 => p
  | n + 1 => p.step.forward n

/-- The characters of a class in front, and the place behind them. -/
def span (f : Char → Bool) (p : Place) : List Char × Place :=
  let cs := p.rest.takeWhile f
  (cs, p.forward cs.length)

/-- Go behind the characters of a class. -/
def skip (f : Char → Bool) (p : Place) : Place := (p.span f).2

def skipBlanks (p : Place) : Place := p.skip (· == ' ')

/-- Go to the end of the line if a comment begins here. -/
def skipComment (p : Place) : Place :=
  if p.peek 0 == some '#' then p.skip fun c => !isBreak c else p

/-- The line end in front as it counts in a text, nothing if there is none, and the place behind. -/
def lineBreak (p : Place) : List Char × Place :=
  match p.rest with
  | '\r' :: '\n' :: _ => (['\n'], p.forward 2)
  | c :: _ =>
    if c == '\u2028' || c == '\u2029' then ([c], p.step)
    else if isBreak c then (['\n'], p.step)
    else ([], p)
  | [] => ([], p)

/-- Does the line begin with one of the marks between documents? -/
def separates (p : Place) : Bool :=
  let start := p.rest.take 3
  (start == ['-', '-', '-'] || start == ['.', '.', '.']) && endsWord (p.peek 3)

end Place

/-- A reader takes something off the front of the text. -/
abbrev Reader (β : Type) := Place → Except Fault (β × Place)

end Dungeon.Yaml
