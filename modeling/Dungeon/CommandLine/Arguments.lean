import Dungeon.Decimal.Reading

/-!
# Arguments

Arguments are words and options. Options have long names, which may be shortened as long as one
option is meant, and short names, which may be written together. Behind a double dash everything is
a word, and so is a negative number.
-/

namespace Dungeon.CommandLine

/-- What has to follow the name of an option. -/
inductive Takes
  | nothing
  | text
  | whole
  | oneOf (words : List String)

/-- An option with all its names, the one that it is known by first. -/
structure Flag where
  name : String
  others : List String := []
  takes : Takes := .nothing

def Flag.names (f : Flag) : List String := f.name :: f.others

def Flag.hasShort (f : Flag) (c : Char) : Bool := f.names.contains (String.ofList ['-', c])

/-- Why arguments do not amount to a request: help is asked for, or they make no sense. -/
inductive Stop
  | help
  | misuse
  deriving DecidableEq

def help : Flag := { name := "--help", others := ["-h"] }

/-- What an argument holds behind the name of an option. -/
inductive Tail
  | nothing
  /-- What stands behind an equals sign. -/
  | value (text : String)
  /-- What stands right behind a short name: a value, or more short names. -/
  | joined (text : String)

inductive Mark
  | word
  | separator
  | known (flag : Flag) (tail : Tail)
  | unknown

/-- The name and what stands behind the first equals sign. -/
def splitEquals (arg : String) : String × Tail :=
  let cs := arg.toList
  match cs.dropWhile (· != '=') with
  | _ :: value => (String.ofList (cs.takeWhile (· != '=')), .value (String.ofList value))
  | [] => (arg, .nothing)

/-- The options that a name which is not written in full can mean. -/
def candidates (flags : List Flag) (arg : String) : List Mark :=
  match arg.toList with
  | '-' :: '-' :: _ =>
    let (start, tail) := splitEquals arg
    flags.flatMap fun f =>
      (f.names.filter fun n => start.toList.isPrefixOf n.toList).map fun _ => .known f tail
  | '-' :: c :: rest =>
    (flags.filter (·.hasShort c)).map fun f => .known f (.joined (String.ofList rest))
  | _ => []

/-- Is this a number behind a minus sign? A line end may follow it. -/
def isNegative (arg : String) : Bool :=
  match arg.toList with
  | '-' :: body =>
    let body := if body.getLast? == some '\n' then body.dropLast else body
    match body.dropWhile Text.isDigit with
    | [] => !body.isEmpty
    | '.' :: rest => !rest.isEmpty && rest.all Text.isDigit
    | _ => false
  | _ => false

/-- What an argument is. -/
def mark (flags : List Flag) (arg : String) : Except Stop Mark :=
  let named (name : String) : Option Flag := flags.find? fun f => f.names.contains name
  if arg.toList.head? != some '-' || arg = "-" then .ok .word
  else
    match named arg, splitEquals arg with
    | some f, _ => .ok (.known f .nothing)
    | none, (name, .value text) =>
      match named name with
      | some f => .ok (.known f (.value text))
      | none => meant
    | none, _ => meant
where
  /-- An argument that is no name in full. -/
  meant : Except Stop Mark :=
    match candidates flags arg with
    | [m] => .ok m
    | [] => .ok (if isNegative arg || arg.toList.contains ' ' then .word else .unknown)
    | _ => .error .misuse

/-- What all arguments are; behind a double dash there are only words. -/
def markAll (flags : List Flag) : List String → Except Stop (List (String × Mark))
  | [] => .ok []
  | arg :: rest => do
    if arg = "--" then return (arg, .separator) :: rest.map fun a => (a, .word)
    let m ← mark flags arg
    return (arg, m) :: (← markAll flags rest)

/-- What arguments amount to. -/
structure Seen where
  word : Option String := none
  /-- The options with their values, in order. -/
  options : List (String × String) := []
  /-- Something was given that has no meaning. -/
  odd : Bool := false

namespace Seen

/-- All values of an option. -/
def all (s : Seen) (name : String) : List String :=
  (s.options.filter (·.1 == name)).map Prod.snd

/-- The value of an option; the last one counts. -/
def last? (s : Seen) (name : String) : Option String := (s.all name).getLast?

def has (s : Seen) (name : String) : Bool := (s.last? name).isSome

def whole? (s : Seen) (name : String) : Option Int := (s.last? name).bind Decimal.readInt?

/-- Note an option whose value has been found. -/
def note (s : Seen) (f : Flag) (value : String) : Except Stop Seen :=
  let fits :=
    match f.takes with
    | .whole => (Decimal.readInt? value).isSome
    | .oneOf words => words.contains value
    | _ => true
  if f.name = help.name then .error .help
  else if fits then .ok { s with options := s.options ++ [(f.name, value)] }
  else .error .misuse

end Seen

/-- The options whose short names are written together, and whether something follows that is no
short name. Neither a dash nor an equals sign may follow a short name. -/
def together (flags : List Flag) : List Char → Except Stop (List Flag × Bool)
  | [] => .ok ([], false)
  | '-' :: _ | '=' :: _ => .error .misuse
  | c :: rest =>
    match flags.find? (·.hasShort c) with
    | none => .ok ([], true)
    | some f => do
      let (more, odd) ← together flags rest
      return (f :: more, odd)

/-- Note an option and those whose short names are written behind it. -/
def noteTogether (flags : List Flag) (s : Seen) (f : Flag) (tail : String) : Except Stop Seen := do
  let (more, odd) ← together flags tail.toList
  (f :: more).foldlM (fun s f => s.note f "") { s with odd := s.odd || odd }

/-- Go through arguments; with `lead` only up to the first word, which stays with the rest. -/
def scan (flags : List Flag) (lead : Bool) :
    List (String × Mark) → Seen → Except Stop (Seen × List String)
  | [], s => .ok (s, [])
  | (arg, .word) :: rest, s =>
    if lead then .ok (s, arg :: rest.map Prod.fst)
    else if s.word.isSome then scan flags lead rest { s with odd := true }
    else
      match rest with
      | (_, .separator) :: rest => scan flags lead rest { s with word := some arg }
      | rest => scan flags lead rest { s with word := some arg }
  | (_, .separator) :: rest, s =>
    if lead then .error .misuse
    else
      match s.word, rest with
      | none, (arg, .word) :: rest => scan flags lead rest { s with word := some arg }
      | _, rest => scan flags lead rest { s with odd := true }
  | (_, .unknown) :: rest, s => scan flags lead rest { s with odd := true }
  | (_, .known f tail) :: rest, s =>
    match f.takes, tail with
    | .nothing, .nothing => do scan flags lead rest (← s.note f "")
    | .nothing, .value _ => .error .misuse
    | .nothing, .joined v => do scan flags lead rest (← noteTogether flags s f v)
    | _, .value v | _, .joined v => do scan flags lead rest (← s.note f v)
    | _, .nothing =>
      match rest with
      | (v, .word) :: rest => do scan flags lead rest (← s.note f v)
      | _ => .error .misuse

end Dungeon.CommandLine
