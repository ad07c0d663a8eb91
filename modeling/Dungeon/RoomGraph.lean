import Dungeon.Layout
import Dungeon.Search
import Dungeon.Sorting

/-!
# Room graphs

The rooms of a layout and the ways between them. Connections lead one way; most questions take them
both ways. Neighbours are sorted, so a search does not depend on the order of the connections.
-/

namespace Dungeon

variable {α : Type}

namespace Layout

/-- Add one connection to a table of neighbours. -/
def addWay (directed : Bool) (adj : Adjacency) (c : Connection α) : Adjacency :=
  let adj := adj.link c.fromRoom c.toRoom
  if directed then adj else adj.link c.toRoom c.fromRoom

/-- The neighbours of each room, and of each other id that a way starts from. -/
def ways (l : Layout α) (directed : Bool) : Adjacency :=
  (l.connections.foldl (addWay directed) (Table.ofList (l.rooms.map fun r => (r.id, [])))).map
    sortedTexts

/-- The different rooms with exits. -/
def exitRooms (l : Layout α) : List String := sortedTexts (l.exits.map Exit.roomId).eraseDups

/-- The rooms that a selector means: the start, the exits, a room by its id, or else all rooms of
a type, or else all rooms with a tag. -/
def select [Scalar α] (l : Layout α) (selector : String) : List String :=
  if selector = "start" then (l.startRoom.filter (· ≠ "")).toList
  else if selector = "exit" then l.exitRooms
  else if (l.room? selector).isSome then [selector]
  else
    match l.rooms.filter fun r => Value.eq r.type (.text selector) with
    | [] => (l.rooms.filter fun r => r.tags.any (Value.eq (.text selector))).map Room.id
    | rooms => rooms.map Room.id

/-- How many rooms the shortest way from the start to an exit has, none being no way. -/
def pathLength (l : Layout α) : Nat :=
  match l.startRoom with
  | none => 0
  | some start =>
    let hops := (l.ways false).distances start
    match (l.exits.filterMap fun e => hops.find? e.roomId).min? with
    | some n => n + 1
    | none => 0

end Layout

/-- What statistics count of a layout. -/
structure Metrics where
  rooms : Nat
  pathLength : Nat
  enemies : Nat
  items : Nat
  connections : Nat
  spawns : Nat

namespace Metrics

def enemyTypes : List String := ["enemy"]

def itemTypes : List String := ["loot", "item"]

/-- How many entities of a layout have one of the types. -/
def countEntities (l : Layout α) (types : List String) : Nat :=
  l.entities.countP fun e => e.type.text?.any types.contains

def ofLayout (l : Layout α) : Metrics where
  rooms := l.rooms.length
  pathLength := l.pathLength
  enemies := countEntities l enemyTypes
  items := countEntities l itemTypes
  connections := l.connections.length
  spawns := l.spawnPoints.length

/-- Each metric under the name that reports use. -/
def all : List (String × (Metrics → Nat)) :=
  [("roomCount", rooms), ("pathLength", pathLength), ("enemyCount", enemies),
    ("itemCount", items), ("connectionCount", connections), ("spawnCount", spawns)]

def toValue [Scalar α] (m : Metrics) : Value α :=
  .record (all.map fun (name, count) => (name, .real (Scalar.ofNat (count m))))

end Metrics

end Dungeon
