import Dungeon.Moment

/-!
# Reading moments

A day is written as year, month and day between hyphens, and a time behind it in hours, minutes and
seconds between colons, with a fraction and a distance from the common time if it has them. What is
read has the right form; `Moment.problem?` looks for numbers that no calendar and no clock has.
-/

namespace Dungeon

namespace Moment

def isDigit (c : Char) : Bool := '0' ≤ c && c ≤ '9'

def ofDigits (ds : List Char) : Nat := ds.foldl (fun n c => 10 * n + (c.toNat - 0x30)) 0

/-- Between `least` and `most` digits, and what follows them. -/
def number? (least most : Nat) (cs : List Char) : Option (Nat × List Char) :=
  let ds := (cs.take most).takeWhile isDigit
  if least ≤ ds.length then some (ofDigits ds, cs.drop ds.length) else none

/-- What follows a mark. -/
def after? (mark : Char) : List Char → Option (List Char)
  | c :: rest => if c = mark then some rest else none
  | [] => none

def isBlank (c : Char) : Bool := c == ' ' || c == '\t'

/-- Millionths of a second; digits behind the sixth do not count. -/
def fraction (cs : List Char) : Nat × List Char :=
  match cs with
  | '.' :: rest =>
    let ds := rest.takeWhile isDigit
    let used := ds.take 6
    (ofDigits (used ++ List.replicate (6 - used.length) '0'), rest.drop ds.length)
  | cs => (0, cs)

/-- The distance from the common time at the end of the text, in seconds. -/
def offset? (cs : List Char) : Option (Option Int) := do
  match cs.dropWhile isBlank with
  | [] => if cs.isEmpty then some none else none
  | 'Z' :: rest => if rest.isEmpty then some (some 0) else none
  | c :: rest =>
    guard (c == '+' || c == '-')
    let (hours, rest) ← number? 1 2 rest
    let minutes ←
      if rest.isEmpty then some 0
      else do
        let (n, rest) ← number? 2 2 (← after? ':' rest)
        if rest.isEmpty then some n else none
    let seconds : Int := 3600 * hours + 60 * minutes
    return some (if c = '-' then -seconds else seconds)

/-- A time of day behind its day. -/
def clock? (cs : List Char) : Option Clock := do
  let (hour, rest) ← number? 1 2 cs
  let (minute, rest) ← number? 2 2 (← after? ':' rest)
  let (second, rest) ← number? 2 2 (← after? ':' rest)
  let (micros, rest) := fraction rest
  return { hour, minute, second, micros, offset := ← offset? rest }

/-- What stands between a day and its time: a letter or blanks. -/
def separated? : List Char → Option (List Char)
  | c :: rest =>
    if c == 'T' || c == 't' then some rest
    else if isBlank c then some (rest.dropWhile isBlank)
    else none
  | [] => none

/-- A moment of the right form. -/
def read? (cs : List Char) : Option Moment := do
  let (year, rest) ← number? 4 4 cs
  let (month, rest) ← number? 1 2 (← after? '-' rest)
  let (day, rest) ← number? 1 2 (← after? '-' rest)
  if rest.isEmpty then return ⟨⟨year, month, day⟩, none⟩
  else return ⟨⟨year, month, day⟩, some (← clock? (← separated? rest))⟩

end Moment

/-- What is wrong with a day. -/
def Day.problem? (d : Day) : Option String :=
  if d.year = 0 then some "year 0 is out of range"
  else if d.month < 1 ∨ 12 < d.month then some "month must be in 1..12"
  else if d.day < 1 ∨ Day.length d.year d.month < d.day then some "day is out of range for month"
  else none

namespace Clock

/-- What is wrong with a time of day. -/
def problem? (c : Clock) : Option String :=
  if 23 < c.hour then some "hour must be in 0..23"
  else if 59 < c.minute then some "minute must be in 0..59"
  else if 59 < c.second then some "second must be in 0..59"
  else none

/-- The common time is less than a day away. -/
def offsetProblem? (c : Clock) : Option String :=
  c.offset.bind fun n =>
    if n < daySeconds ∧ -daySeconds < n then none
    else some ("offset must be a timedelta strictly between -timedelta(hours=24) and " ++
      "timedelta(hours=24), not " ++ spanText n ++ ".")

end Clock

/-- What is wrong with a moment; its distance from the common time is looked at first. -/
def Moment.problem? (m : Moment) : Option String :=
  (m.clock.bind Clock.offsetProblem?).or (m.day.problem?.or (m.clock.bind Clock.problem?))

end Dungeon
