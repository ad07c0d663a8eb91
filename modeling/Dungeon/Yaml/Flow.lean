import Dungeon.Yaml.Place

/-!
# Texts on lines that flow

Texts in quotes and texts without them go on over line ends. A line end counts as a blank, and
further ones as themselves; the marks between documents end no text but make it unreadable, or stop
it when it has no quotes.
-/

namespace Dungeon.Yaml

/-! ## Texts with quotes -/

/-- The line ends behind the first one, with the blanks between them left out. -/
def quotedBreaks : Nat → List Char → Reader (List Char)
  | 0, _, _ => .error marks
  | limit + 1, done, p =>
    if p.separates then .error marks
    else
      let p := p.skip fun c => c == ' ' || c == '\t'
      if (p.peek 0).any isBreak then
        let (cs, p) := p.lineBreak
        quotedBreaks limit (done ++ cs) p
      else .ok (done, p)

/-- What a line end and the further ones behind it count as. -/
def folded (first more : List Char) : List Char :=
  if first != ['\n'] then first ++ more else if more.isEmpty then [' '] else more

/-- The blanks inside quotes, or the line ends in their place. -/
def quotedSpaces (p : Place) : Except Fault (List Char × Place) := do
  let (blanks, p) := p.span fun c => c == ' ' || c == '\t'
  match p.peek 0 with
  | none => throw marks
  | some c =>
    if isBreak c then
      let (first, p) := p.lineBreak
      let (more, p) ← quotedBreaks (p.rest.length + 1) [] p
      return (folded first more, p)
    else return (blanks, p)

/-- The characters with escapes of one letter. -/
def escapes : List (Char × Nat) :=
  [('0', 0), ('a', 7), ('b', 8), ('t', 9), ('\t', 9), ('n', 10), ('v', 11), ('f', 12), ('r', 13),
    ('e', 27), (' ', 32), ('"', 34), ('\\', 92), ('/', 47), ('N', 0x85), ('_', 0xA0),
    ('L', 0x2028), ('P', 0x2029)]

/-- How many hexadecimal digits follow an escape. -/
def codeLength (c : Char) : Option Nat :=
  if c = 'x' then some 2 else if c = 'u' then some 4 else if c = 'U' then some 8 else none

def isHex (c : Char) : Bool :=
  ('0' ≤ c && c ≤ '9') || ('a' ≤ c && c ≤ 'f') || ('A' ≤ c && c ≤ 'F')

/-- The value of a digit below 16. -/
def digitOf (c : Char) : Nat :=
  if c ≤ '9' then c.toNat - 0x30 else if 'a' ≤ c then c.toNat - 0x57 else c.toNat - 0x37

/-- The number that hexadecimal digits make. -/
def hexValue (cs : List Char) : Nat := cs.foldl (fun n c => 16 * n + digitOf c) 0

/-- The hexadecimal digits of an escape. -/
def code (length : Nat) (p : Place) : Except Fault (Nat × Place) :=
  let digits := p.rest.take length
  if digits.length = length && digits.all isHex then .ok (hexValue digits, p.forward length)
  else .error marks

/-- The second half of a pair of code units that stand for one character. -/
def lowUnit? (p : Place) : Option (Nat × Place) :=
  match p.rest with
  | '\\' :: 'u' :: _ =>
    match code 4 (p.forward 2) with
    | .ok (low, p) => if 0xDC00 ≤ low && low < 0xE000 then some (low, p) else none
    | .error _ => none
  | _ => none

/-- The character of a code; a high code unit takes its low one along. Half of a pair is no character:
no text here holds one, so that it cannot be read. -/
def coded (n : Nat) (p : Place) : Except Fault (Char × Place) :=
  if 0x110000 ≤ n then .error .characterRange
  else if n < 0xD800 || 0xE000 ≤ n then .ok (Char.ofNat n, p)
  else if n < 0xDC00 then
    match lowUnit? p with
    | some (low, p) => .ok (Char.ofNat (0x10000 + (n - 0xD800) * 0x400 + (low - 0xDC00)), p)
    | none => .error (.unreadableYaml .characters)
  else .error (.unreadableYaml .characters)

/-- What an escape stands for, its backslash left behind. An escaped line end is left out. -/
def escaped (p : Place) : Except Fault (List Char × Place) :=
  match p.peek 0 with
  | none => .error marks
  | some c =>
    match escapes.lookup c, codeLength c with
    | some n, _ => .ok ([Char.ofNat n], p.step)
    | none, some length => do
      let (n, p) ← code length p.step
      let (c, p) ← coded n p
      return ([c], p)
    | none, none =>
      if isBreak c then
        let p := p.lineBreak.2
        quotedBreaks (p.rest.length + 1) [] p
      else .error marks

def singleQuote : Char := Char.ofNat 0x27

/-- The text up to the closing quote. -/
def quotedText (double : Bool) : Nat → List Char → Reader (List Char)
  | 0, _, _ => .error marks
  | limit + 1, done, p =>
    match p.rest with
    | [] => .error marks
    | c :: rest =>
      if double && c == '"' then .ok (done, p.step)
      else if !double && c == singleQuote then
        if rest.head? == some singleQuote then
          quotedText double limit (done ++ [singleQuote]) (p.forward 2)
        else .ok (done, p.step)
      else if double && c == '\\' then do
        let (cs, p) ← escaped p.step
        quotedText double limit (done ++ cs) p
      else if isGap c then do
        let (cs, p) ← quotedSpaces p
        quotedText double limit (done ++ cs) p
      else quotedText double limit (done ++ [c]) p.step

/-! ## Texts without quotes -/

/-- The marks inside brackets. -/
def brackets : List Char := ",[]\x7b\x7d".toList

/-- Does a word end here? Inside brackets it ends at marks too. -/
def stopsWord (inside : Bool) : List Char → Bool
  | [] => true
  | ':' :: rest => endsWord rest.head? || (inside && rest.head?.any brackets.contains)
  | c :: _ => isGap c || (inside && (c == '?' || brackets.contains c))

/-- How long the word in front is. -/
def wordLength (inside : Bool) : List Char → Nat
  | [] => 0
  | c :: rest => if stopsWord inside (c :: rest) then 0 else wordLength inside rest + 1

/-- The line ends behind the first one; none when a mark between documents comes. -/
def plainBreaks : Nat → List Char → Place → Option (List Char) × Place
  | 0, done, p => (some done, p)
  | limit + 1, done, p =>
    if p.peek 0 == some ' ' then plainBreaks limit done p.step
    else if (p.peek 0).any isBreak then
      let (cs, p) := p.lineBreak
      if p.separates then (none, p) else plainBreaks limit (done ++ cs) p
    else (some done, p)

/-- What stands between two words, nothing where the text ends. -/
structure WordGap where
  between : List Char
  /-- A line has ended. -/
  newLine : Bool
  after : Place

def wordGap (p : Place) : WordGap :=
  let (blanks, p) := p.span (· == ' ')
  if (p.peek 0).any isBreak then
    let (first, p) := p.lineBreak
    if p.separates then ⟨[], true, p⟩
    else
      match plainBreaks (p.rest.length + 1) [] p with
      | (some more, p) => ⟨folded first more, true, p⟩
      | (none, p) => ⟨[], true, p⟩
  else ⟨blanks, false, p⟩

/-- A text without quotes. -/
structure Words where
  text : List Char
  /-- The last gap behind a word went over a line end. -/
  newLine : Bool
  after : Place

/-- Words and the gaps between them, up to a comment, a mark, or a line that is not indented so
far. -/
def words (inside : Bool) (indent : Int) : Nat → List Char → List Char → Words → Words
  | 0, _, _, w => w
  | limit + 1, done, gap, w =>
    let p := w.after
    let n := wordLength inside p.rest
    if p.peek 0 == some '#' || n == 0 then w
    else
      let text := done ++ gap ++ p.rest.take n
      let g := wordGap (p.forward n)
      let w := ⟨text, g.newLine, g.after⟩
      if g.between.isEmpty || (!inside && (g.after.column : Int) < indent) then w
      else words inside indent limit text g.between w

def plainText (inside : Bool) (indent : Int) (p : Place) : Words :=
  words inside indent (p.rest.length + 1) [] [] ⟨[], false, p⟩

/-- The marks that no text without quotes starts with. -/
def reserved : List Char := singleQuote :: Char.ofNat 0x60 :: "-?:,[]\x7b\x7d#&*!|>\"%@".toList

/-- Can a text without quotes start here? -/
def startsPlain (inside : Bool) : List Char → Bool
  | [] => false
  | c :: rest =>
    !(isGap c || reserved.contains c) ||
      (!endsWord rest.head? && (c == '-' || (!inside && (c == '?' || c == ':'))))

end Dungeon.Yaml
