import Dungeon.Moment.Reading

/-!
# Tags

A tag says what a node stands for. Most texts without quotes have no tag of their own; `Tag.ofPlain`
finds it in the form of the text. Whole numbers may be binary, octal, hexadecimal or sexagesimal, and
underscores may stand between digits.
-/

namespace Dungeon.Yaml

inductive Tag
  | null
  | bool
  | int
  | float
  | moment
  | str
  | seq
  | map
  /-- A list of pairs, written as mappings of one pair each. -/
  | pairs
  /-- The key whose mappings are merged into its own one. -/
  | merge
  /-- The key of the value that a mapping has as a scalar. -/
  | default
  | other
  deriving DecidableEq

namespace Tag

/-- What the full forms of the usual tags begin with. -/
def core : String := "tag:yaml.org,2002:"

def usual : List (String × Tag) :=
  [("null", null), ("bool", bool), ("int", int), ("float", float), ("timestamp", moment),
    ("str", str), ("seq", seq), ("map", map), ("pairs", pairs), ("omap", pairs),
    ("merge", merge), ("value", default)]

/-- The tag of a full form. -/
def ofText (text : String) : Tag :=
  ((usual.map fun p => (core ++ p.1, p.2)).lookup text).getD other

end Tag

/-! ## The forms of texts without quotes -/

def isDecimal (c : Char) : Bool := '0' ≤ c && c ≤ '9'

def isPadded (c : Char) : Bool := isDecimal c || c == '_'

/-- The parts between colons. -/
def parts : List Char → List (List Char)
  | [] => [[]]
  | c :: rest =>
    match parts rest with
    | [] => [[c]]
    | p :: ps => if c == ':' then [] :: p :: ps else (c :: p) :: ps

/-- Two digits below 60, or one. -/
def isSixtieth : List Char → Bool
  | [d] => isDecimal d
  | [t, d] => '0' ≤ t && t ≤ '5' && isDecimal d
  | _ => false

/-- The sign in front, and what follows it. -/
def signed : List Char → Bool × List Char
  | '-' :: rest => (true, rest)
  | '+' :: rest => (false, rest)
  | cs => (false, cs)

/-- Digits of a class and underscores, at least one of them. -/
def areDigits (isOne : Char → Bool) (cs : List Char) : Bool :=
  !cs.isEmpty && cs.all fun c => isOne c || c == '_'

/-- Is this a whole number without its sign? -/
def isWhole : List Char → Bool
  | [] => false
  | '0' :: [] => true
  | '0' :: 'b' :: ds => areDigits (fun c => c == '0' || c == '1') ds
  | '0' :: 'x' :: ds =>
    areDigits (fun c => isDecimal c || ('a' ≤ c && c ≤ 'f') || ('A' ≤ c && c ≤ 'F')) ds
  | '0' :: ds => areDigits (fun c => '0' ≤ c && c ≤ '7') ds
  | c :: ds =>
    match parts (c :: ds) with
    | first :: sixtieths => isDecimal c && first.all isPadded && sixtieths.all isSixtieth
    | [] => false

/-- An exponent with its sign, or none. -/
def isExponent : List Char → Bool
  | [] => true
  | e :: s :: d :: ds =>
    (e == 'e' || e == 'E') && (s == '+' || s == '-') && (d :: ds).all isDecimal
  | _ => false

/-- Is this a real number without its sign, digits in front of the point? -/
def isPointed (cs : List Char) : Bool :=
  cs.head?.any isDecimal &&
    match cs.dropWhile isPadded with
    | '.' :: rest => isExponent (rest.dropWhile isPadded)
    | _ => false

/-- Is this a real number that starts with its point? -/
def isFraction : List Char → Bool
  | '.' :: d :: rest => isDecimal d && isExponent (rest.dropWhile isPadded)
  | _ => false

/-- Is this a sexagesimal number with a fraction? -/
def isSexagesimal (cs : List Char) : Bool :=
  match cs.dropWhile (· != '.'), parts (cs.takeWhile (· != '.')) with
  | '.' :: rest, first :: sixtieth :: more =>
    first.head?.any isDecimal && first.all isPadded && rest.all isPadded &&
      (sixtieth :: more).all isSixtieth
  | _, _ => false

def infinities : List String := [".inf", ".Inf", ".INF"]

def undefinedNames : List String := [".nan", ".NaN", ".NAN"]

/-- Is this a real number? One that starts with its point has no sign. -/
def isReal (cs : List Char) : Bool :=
  let body := (signed cs).2
  undefinedNames.contains (String.ofList cs) || isFraction cs ||
    infinities.contains (String.ofList body) || isPointed body || isSexagesimal body

/-- Is this a moment? A day on its own has two digits for its month and two for its day. -/
def isMoment (cs : List Char) : Bool :=
  (Moment.read? cs).any fun m => m.clock.isSome || cs.length == 10

def boolWords : List String :=
  ["yes", "Yes", "YES", "true", "True", "TRUE", "on", "On", "ON",
    "no", "No", "NO", "false", "False", "FALSE", "off", "Off", "OFF"]

def nullWords : List String := ["~", "null", "Null", "NULL"]

/-- The marks that stand for themselves nowhere. -/
def markWords : List String := ["!", "&", "*"]

/-- The text without a line end behind it, which no form takes into account. -/
def lineOf (cs : List Char) : List Char :=
  if cs.getLast? == some '\n' then cs.dropLast else cs

/-- The tag of a text without one. -/
def Tag.ofPlain (s : String) : Tag :=
  let cs := lineOf s.toList
  let line := String.ofList cs
  if s.isEmpty || nullWords.contains line then .null
  else if boolWords.contains line then .bool
  else if line = "=" then .default
  else if line = "<<" then .merge
  else if markWords.contains line then .other
  else if isWhole (signed cs).2 then .int
  else if isReal cs then .float
  else if isMoment cs then .moment
  else .str

end Dungeon.Yaml
