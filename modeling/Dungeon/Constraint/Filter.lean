import Dungeon.Constraint.Basic
import Dungeon.RoomGraph

/-!
# Filters

The rooms that a constraint is about: rooms by their own or their content's type or tags, and rooms
in front of or behind others on the way from the start.
-/

namespace Dungeon

variable {τ α : Type} [Scalar α]

/-- Has the room the type or the tag? -/
def Room.answersTo (r : Room α) (tag : Value α) : Bool :=
  Value.eq r.type tag || r.tags.any (Value.eq tag)

/-- Has the entity the type, or the tag among the tags of its metadata? -/
def Entity.answersTo (e : Entity α) (tag : Value α) : Except Fault Bool :=
  if Value.eq e.type tag then .ok true
  else Value.holds (Value.fieldOr e.metadata "tags" (.tuple [])) tag

namespace Constraint

/-- A tag that is null means every room. -/
def countRooms (l : Layout α) (tag : Value α) : Nat :=
  if tag.isNull then l.rooms.length else l.rooms.countP (·.answersTo tag)

/-- How many of the entities have a tag; a tag that is null means every entity. -/
def countEntities (entities : List (Entity α)) (tag : Value α) : Except Fault Nat :=
  if tag.isNull then .ok entities.length
  else return (← entities.filterM (·.answersTo tag)).length

/-- Has one of the entities the tag? The first one that has it ends the search. -/
def someEntity (tag : Value α) : List (Entity α) → Except Fault Bool
  | [] => .ok false
  | e :: rest => do if ← e.answersTo tag then return true else someEntity tag rest

/-- Is the room, or is something in it, what is looked for? -/
def finds (tag target : Value α) (r : Room α) : Except Fault Bool := do
  let named (what : String) : Bool :=
    Value.eq target (.text "any") || Value.eq target (.text what)
  let content ← if named "entities" then someEntity tag r.entities else pure false
  return (named "rooms" && r.answersTo tag) || content

/-- The rooms where what is looked for is found. -/
def findRooms (c : Constraint τ α) (l : Layout α) (tag : String) : Except Fault (List String) := do
  let target := Value.fieldOr c.parameters "target" (.text "any")
  return (← l.rooms.filterM (finds (.text tag) target)).map Room.id

/-- Which side of other rooms a constraint is about. -/
inductive Side
  | before
  | after

/-- The side, and the selector of the other rooms; being in front of rooms is asked about first. -/
def side? (c : Constraint τ α) : Option (Side × String) :=
  match c.parameter "before", c.parameter "after" with
  | .null, .null => none
  | .null, v => some (.after, v.plain)
  | v, _ => some (.before, v.plain)

def Side.name : Side → String
  | before => "before"
  | after => "after"

omit [Scalar α] in
/-- The value that selects the other rooms. -/
def reference (c : Constraint τ α) : Value α :=
  match c.parameter "before" with
  | .null => c.parameter "after"
  | v => v

/-- How a message speaks of the side. -/
def sideText (c : Constraint τ α) : String :=
  match c.side? with
  | none => ""
  | some (side, selector) => " " ++ side.name ++ " '" ++ selector ++ "'"

omit [Scalar α] in
/-- Is a room so many hops away on the side of rooms that are as far away as `others`? -/
def Side.admits (others : List Nat) (n : Nat) : Side → Bool
  | before => others.all (n < ·)
  | after => others.all (· < n)

/-- Keep the rooms on the side that the constraint is about, by hops from the start. -/
def ordered (c : Constraint τ α) (l : Layout α) (rooms : List String) :
    Except Fault (List String) :=
  match c.side?, l.startRoom with
  | none, _ => .ok rooms
  | some _, none => .ok []
  | some (side, selector), some start => do
    let selector ← Value.writing [c.reference] selector
    let hops := (l.ways false).distances start
    match (l.select selector).filterMap hops.find? with
    | [] => throw (.noReachableRoom selector)
    | others => return rooms.filter fun r => (hops.find? r).any (side.admits others)

end Constraint

end Dungeon
