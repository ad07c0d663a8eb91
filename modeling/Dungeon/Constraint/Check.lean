import Dungeon.Constraint.Bounds
import Dungeon.Constraint.Filter

/-!
# Checks

Each type of constraint has its own check. A constraint whose parameters make no sense fails with a
message instead of failing the run; so does a constraint whose predicate fails.
-/

namespace Dungeon

/-- What a check found, and why. -/
structure Verdict (α : Type) where
  passed : Bool
  message : Value α := .null

namespace Verdict

variable {α : Type}

def pass : Verdict α := { passed := true }

def fail (reason : String) : Verdict α := { passed := false, message := .text reason }

/-- A verdict whose reason quotes these values. -/
def said (vs : List (Value α)) (v : Verdict α) : Except Fault (Verdict α) :=
  if v.passed then .ok v else Value.writing vs v

/-- Passes when the number is within the bounds. -/
def within [Scalar α] (b : Bounds α) (n : Number α) (reason : String) : Verdict α :=
  if b.contain n then pass else fail reason

end Verdict

namespace Constraint

variable {τ α : Type} [Scalar α]

def commas (names : List String) : String := Value.joined ", " names

/-- The least number of hops between rooms of two lists. -/
def leastHops (adj : Adjacency) (sources targets : List String) : Option Nat :=
  (sources.flatMap fun s => targets.filterMap (adj.distances s).find?).min?

/-- How many hops are between the nearest two rooms of two selectors? -/
def checkDistance (c : Constraint τ α) (l : Layout α) : Except Fault (Verdict α) := do
  let source ← (← c.demand "from").toText
  let target ← (← c.demand "to").toText
  let bounds ← Bounds.read c
  let sources := l.select source
  let targets := l.select target
  if sources.isEmpty then return .fail ("no rooms match '" ++ source ++ "'")
  if targets.isEmpty then return .fail ("no rooms match '" ++ target ++ "'")
  let between := "between '" ++ source ++ "' and '" ++ target ++ "'"
  match leastHops (l.ways false) sources targets with
  | none => return .fail ("no path " ++ between)
  | some n =>
    return .within bounds (.whole n)
      ("distance " ++ toString n ++ " " ++ between ++ " outside " ++ bounds.text)

/-- How many rooms or entities are there? -/
def checkCount (c : Constraint τ α) (l : Layout α) : Except Fault (Verdict α) := do
  let target := Value.fieldOr c.parameters "target" (.text "rooms")
  let tag := c.parameter "tag"
  let bounds ← Bounds.read c
  let n ← match target with
    | .text "rooms" => pure (countRooms l tag)
    | .text "entities" => countEntities l.entities tag
    | v => throw (.quoting [v] (.countTarget v.quoted))
  let what := if tag.truthy then target.plain ++ " tagged '" ++ tag.plain ++ "'" else target.plain
  (Verdict.within bounds (.whole n)
    (toString n ++ " " ++ what ++ ", expected " ++ bounds.text)).said [tag]

/-- How many entities of a type each room holds; of rooms with one id the last one counts. -/
def entityCounts (l : Layout α) (type : Value α) : Except Fault (Table String Nat) := do
  let counts ← l.rooms.mapM fun r => return (r.id, ← countEntities r.entities type)
  return Table.ofList counts

/-- How many entities do rooms hold, on average or each? -/
def checkDensity (c : Constraint τ α) (l : Layout α) : Except Fault (Verdict α) := do
  let bounds ← Bounds.read c
  if l.rooms.isEmpty then return .fail "layout has no rooms"
  let counts ← entityCounts l (c.parameter "entityType")
  match Value.fieldOr c.parameters "mode" (.text "average") with
  | .text "average" =>
    let average : α := Scalar.ofNat (counts.values.foldl (· + ·) 0) / Scalar.ofNat counts.entries.length
    return .within bounds (.real average)
      ("average density " ++ Scalar.fixedText average ++ " outside " ++ bounds.text)
  | .text "per_room" =>
    let outside := counts.entries.filter fun p => !bounds.contain (.whole p.2)
    if outside.isEmpty then return .pass
    return .fail ("rooms outside " ++ bounds.text ++ ": " ++ commas (outside.map Prod.fst))
  | v => throw (.quoting [v] (.densityMode v.quoted))

/-- A value as a level; only numbers are levels. -/
def level? : Value α → Except Fault (Option α)
  | .num n => some <$> n.toScalar
  | _ => .ok none

/-- The level of a room: its own, or else the highest of its entities. -/
def roomLevel (r : Room α) (key : String) : Except Fault (Option α) := do
  match ← level? (Value.field r.metadata key) with
  | some x => return some x
  | none =>
    match (← r.entities.mapM fun e => level? (Value.field e.metadata key)).filterMap (·) with
    | [] => return none
    | x :: rest => return some (rest.foldl Scalar.max x)

/-- Go along a path and find the first room whose level is lower than the one before it. Rooms
without a level are passed over. -/
def checkLevels (l : Layout α) (key : String) :
    Option (String × α) → List String → Except Fault (Verdict α)
  | _, [] => .ok .pass
  | previous, id :: rest => do
    match l.rooms.reverse.find? (·.id == id) with
    | none => throw (.missingKey (Text.quote id))
    | some r =>
      match ← roomLevel r key, previous with
      | none, previous => checkLevels l key previous rest
      | some x, none => checkLevels l key (some (id, x)) rest
      | some x, some (before, y) =>
        if Scalar.lt x y then
          return .fail (key ++ " drops from " ++ Scalar.briefText y ++ " in '" ++ before ++
            "' to " ++ Scalar.briefText x ++ " in '" ++ id ++ "'")
        else checkLevels l key (some (id, x)) rest

/-- Check the ways to exits, one after the other, up to the first failure. -/
def checkExits (l : Layout α) (key start : String) : List String → Except Fault (Verdict α)
  | [] => .ok .pass
  | exit :: rest => do
    match (l.ways true).shortestPath start exit with
    | none => return .fail ("exit room '" ++ exit ++ "' is not reachable from the start")
    | some path =>
      let v ← checkLevels l key none path
      if v.passed then checkExits l key start rest else return v

/-- Does the level never drop on the shortest way to an exit? -/
def checkProgression (c : Constraint τ α) (l : Layout α) : Except Fault (Verdict α) := do
  let key ← (Value.fieldOr c.parameters "key" (.text "difficulty")).toText
  match l.startRoom with
  | none => return .fail "layout has no start room"
  | some start => checkExits l key start l.exitRooms

/-- What is looked for, and the rooms in question where it is found. -/
def found (c : Constraint τ α) (l : Layout α) : Except Fault (String × List String) := do
  let tag ← (← c.demand "tag").toText
  return (tag, ← c.ordered l (← c.findRooms l tag))

def checkRequired (c : Constraint τ α) (l : Layout α) : Except Fault (Verdict α) := do
  let (tag, rooms) ← c.found l
  if !rooms.isEmpty then return .pass
  (Verdict.fail ("required '" ++ tag ++ "' not found" ++ c.sideText)).said [c.reference]

def checkForbidden (c : Constraint τ α) (l : Layout α) : Except Fault (Verdict α) := do
  let (tag, rooms) ← c.found l
  if rooms.isEmpty then return .pass
  (Verdict.fail ("forbidden '" ++ tag ++ "' found" ++ c.sideText ++ " in: " ++ commas rooms)).said
    [c.reference]

omit [Scalar α] in
/-- Can every room be reached from the start? -/
def checkConnected (l : Layout α) : Verdict α :=
  if l.rooms.isEmpty then .pass
  else
    match l.startRoom with
    | none => .fail "layout has no start room"
    | some start =>
      let hops := (l.ways false).distances start
      match l.rooms.filter fun r => !hops.contains r.id with
      | [] => .pass
      | rooms => .fail ("rooms unreachable from start: " ++ commas (rooms.map Room.id))

/-- The predicates that constraints can ask by name. -/
abbrev Registry (τ α : Type) := String → Option (Predicate τ α)

/-- Ask a predicate about a layout. -/
def ask (c : Constraint τ α) (p : Predicate τ α) (l : Layout α) :
    EStateM Fault τ (Verdict α) := do
  let opinion ← p l c.parameters
  return { passed := opinion.value.truthy, message := opinion.message }

/-- Ask the constraint's own predicate, or else the named one. -/
def checkCustom (registry : Registry τ α) (c : Constraint τ α) (l : Layout α) :
    EStateM Fault τ (Verdict α) :=
  match c.predicate, c.parameter "predicate" with
  | some p, _ => c.ask p l
  | none, .null => throw .noPredicate
  | none, value =>
    match value.toText with
    | .error f => throw f
    | .ok name =>
      match registry name with
      | some p => c.ask p l
      | none => return .fail ("unknown predicate '" ++ name ++ "'")

def check (registry : Registry τ α) (c : Constraint τ α) (l : Layout α) :
    EStateM Fault τ (Verdict α) :=
  let pure (r : Except Fault (Verdict α)) : EStateM Fault τ (Verdict α) :=
    match r with
    | .ok v => return v
    | .error f => throw f
  match c.type with
  | .distance => pure (c.checkDistance l)
  | .count => pure (c.checkCount l)
  | .density => pure (c.checkDensity l)
  | .progression => pure (c.checkProgression l)
  | .required => pure (c.checkRequired l)
  | .forbidden => pure (c.checkForbidden l)
  | .connected => return checkConnected l
  | .custom => c.checkCustom registry l

/-- What a fault in a check amounts to: bad parameters, or a predicate that fails. Any other fault
is not the constraint's. -/
def verdictOn (c : Constraint τ α) (f : Fault) : Option (Verdict α) :=
  match f.kind with
  | .key => some (.fail ("invalid parameters: missing parameter " ++ f.message))
  | .value | .type | .parameter | .json => some (.fail ("invalid parameters: " ++ f.message))
  | kind =>
    if c.type = .custom then some (.fail ("predicate raised " ++ kind.name ++ ": " ++ f.message))
    else none

/-- Check one constraint. -/
def evaluate (registry : Registry τ α) (l : Layout α) (c : Constraint τ α) :
    EStateM Fault τ (CheckResult α) := fun t =>
  let result (v : Verdict α) : CheckResult α := {
    constraintId := c.id, passed := v.passed, severity := c.severity
    message := if !v.passed && c.errorMessage.truthy then c.errorMessage else v.message }
  match c.check registry l t with
  | .ok v t => .ok (result v) t
  | .error f t =>
    match c.verdictOn f with
    | some v => .ok (result v) t
    | none => .error f t

/-- Check constraints in turn. -/
def evaluateAll (registry : Registry τ α) (cs : List (Constraint τ α)) (l : Layout α) :
    EStateM Fault τ (List (CheckResult α)) := cs.mapM (evaluate registry l)

end Constraint

end Dungeon
