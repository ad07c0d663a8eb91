/-!
# Moments

Days of the calendar, and times of day with or without a distance from the common time. A moment is
written in digits of fixed width from the year down; `quoted` spells out its parts.
-/

namespace Dungeon

structure Day where
  year : Nat
  month : Nat
  day : Nat
  deriving DecidableEq

/-- A time of day; `offset` says how many seconds it is ahead of the common time. -/
structure Clock where
  hour : Nat
  minute : Nat
  second : Nat
  micros : Nat := 0
  offset : Option Int := none
  deriving DecidableEq

/-- A day, or a time on a day. -/
structure Moment where
  day : Day
  clock : Option Clock := none
  deriving DecidableEq

/-- A number in at least so many digits. -/
def padded (width n : Nat) : String :=
  let ds := (toString n).toList
  String.ofList (List.replicate (width - ds.length) '0' ++ ds)

namespace Day

def text (d : Day) : String :=
  padded 4 d.year ++ "-" ++ padded 2 d.month ++ "-" ++ padded 2 d.day

def isLeap (year : Nat) : Bool := year % 4 == 0 && (year % 100 != 0 || year % 400 == 0)

/-- How many days a month has. -/
def length (year month : Nat) : Nat :=
  match month with
  | 2 => if isLeap year then 29 else 28
  | 4 | 6 | 9 | 11 => 30
  | _ => 31

end Day

namespace Clock

def daySeconds : Int := 86400

/-- The distance from the common time in hours and minutes. -/
def offsetText (offset : Int) : String :=
  let n := offset.natAbs
  (if offset < 0 then "-" else "+") ++ padded 2 (n / 3600) ++ ":" ++ padded 2 (n % 3600 / 60)

def text (c : Clock) : String :=
  padded 2 c.hour ++ ":" ++ padded 2 c.minute ++ ":" ++ padded 2 c.second ++
    (if c.micros = 0 then "" else "." ++ padded 6 c.micros) ++
    (c.offset.map offsetText).getD ""

/-- A span of seconds as whole days and the seconds left over, the latter never below zero. -/
def spanText (seconds : Int) : String :=
  let days := seconds.fdiv daySeconds
  let rest := seconds.fmod daySeconds
  "datetime.timedelta(" ++ (if days = 0 then "" else "days=" ++ toString days) ++
    (if days ≠ 0 ∧ rest ≠ 0 then ", " else "") ++
    (if rest = 0 then "" else "seconds=" ++ toString rest) ++ ")"

def zoneText (offset : Int) : String :=
  if offset = 0 then "datetime.timezone.utc"
  else "datetime.timezone(" ++ spanText offset ++ ")"

/-- The parts of a time of day; seconds and their fraction are left out when they are zero. -/
def parts (c : Clock) : List String :=
  [c.hour, c.minute].map toString ++
    (if c.second = 0 ∧ c.micros = 0 then [] else [toString c.second]) ++
    (if c.micros = 0 then [] else [toString c.micros]) ++
    (c.offset.map fun n => "tzinfo=" ++ zoneText n).toList

end Clock

namespace Moment

def typeName (m : Moment) : String :=
  if m.clock.isSome then "datetime.datetime" else "datetime.date"

/-- A moment with a separator between day and time. -/
def written (separator : String) (m : Moment) : String :=
  m.day.text ++ (m.clock.map fun c => separator ++ c.text).getD ""

def plain (m : Moment) : String := m.written " "

/-- A moment as reports write it. -/
def reported (m : Moment) : String := m.written "T"

def quoted (m : Moment) : String :=
  let parts := [m.day.year, m.day.month, m.day.day].map toString ++
    (m.clock.map Clock.parts).getD []
  m.typeName ++ "(" ++ ", ".intercalate parts ++ ")"

end Moment

end Dungeon
