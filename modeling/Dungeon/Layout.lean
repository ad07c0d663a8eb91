import Dungeon.Fault

/-!
# Layouts

What a run produces: rooms with their content, connections between doors, spawn points, the place
where the player starts, and exits. `toValue` gives each of them as it is reported.
-/

namespace Dungeon

variable {α : Type}

structure Point (α : Type) where
  x : α
  y : α

def Point.toValue (p : Point α) : Value α := .record [("x", .real p.x), ("y", .real p.y)]

/-- A rectangle with sides along the axes; `x` and `y` are its top left corner. -/
structure Rect (α : Type) where
  x : α
  y : α
  width : α
  height : α

namespace Rect

section
variable [Scalar α]

def right (r : Rect α) : α := r.x + r.width

def bottom (r : Rect α) : α := r.y + r.height

def center (r : Rect α) : Point α := ⟨r.x + r.width / 2.0, r.y + r.height / 2.0⟩

/-- Do the two rectangles share more than their edges? -/
def intersects (r s : Rect α) : Bool :=
  Scalar.lt r.x s.right && Scalar.lt s.x r.right && Scalar.lt r.y s.bottom &&
    Scalar.lt s.y r.bottom

def contains (r : Rect α) (p : Point α) : Bool :=
  Scalar.le r.x p.x && Scalar.le p.x r.right && Scalar.le r.y p.y && Scalar.le p.y r.bottom

end

def toValue (r : Rect α) : Value α :=
  .record [("x", .real r.x), ("y", .real r.y), ("width", .real r.width),
    ("height", .real r.height)]

end Rect

/-- Data about a room or an entity, by names. -/
abbrev Metadata (α : Type) := Fields α

structure Entity (α : Type) where
  id : String
  type : Value α
  position : Point α
  metadata : Metadata α := []

def Entity.toValue (e : Entity α) : Value α :=
  .record [("id", .text e.id), ("type", e.type), ("position", e.position.toValue),
    ("metadata", .object e.metadata)]

structure Room (α : Type) where
  id : String
  type : Value α
  bounds : Rect α
  entities : List (Entity α) := []
  tags : List (Value α) := []
  metadata : Metadata α := []
  /-- The node that placed the room. -/
  source : Option String := none

def Room.toValue (r : Room α) : Value α :=
  .record [("id", .text r.id), ("type", r.type), ("bounds", r.bounds.toValue),
    ("entities", .list (r.entities.map Entity.toValue)), ("tags", .list r.tags),
    ("metadata", .object r.metadata), ("sourceNode", .ofOption .text r.source)]

structure SpawnPoint (α : Type) where
  id : String
  type : Value α
  position : Point α
  roomId : String

def SpawnPoint.toValue (s : SpawnPoint α) : Value α :=
  .record [("id", .text s.id), ("type", s.type), ("position", s.position.toValue),
    ("roomId", .text s.roomId)]

/-- A way from a door of one room to a door of another. -/
structure Connection (α : Type) where
  fromRoom : String
  toRoom : String
  fromDoor : Point α
  toDoor : Point α

def Connection.toValue (c : Connection α) : Value α :=
  .record [("fromRoomId", .text c.fromRoom), ("toRoomId", .text c.toRoom),
    ("fromDoor", c.fromDoor.toValue), ("toDoor", c.toDoor.toValue)]

structure Exit (α : Type) where
  position : Point α
  roomId : String
  type : Value α := .text "stairs"
  requiresKey : Value α := .bool false
  nodeId : Option String := none

def Exit.toValue (e : Exit α) : Value α :=
  .record [("position", e.position.toValue), ("roomId", .text e.roomId),
    ("exitType", e.type), ("requiresKey", e.requiresKey),
    ("nodeId", .ofOption .text e.nodeId)]

structure Layout (α : Type) where
  rooms : List (Room α) := []
  connections : List (Connection α) := []
  spawnPoints : List (SpawnPoint α) := []
  playerStart : Point α
  startRoom : Option String := none
  exits : List (Exit α) := []

namespace Layout

def room? (l : Layout α) (id : String) : Option (Room α) := l.rooms.find? (·.id == id)

def entities (l : Layout α) : List (Entity α) := l.rooms.flatMap Room.entities

def toValue (l : Layout α) : Value α :=
  .record [("rooms", .list (l.rooms.map Room.toValue)),
    ("connections", .list (l.connections.map Connection.toValue)),
    ("spawnPoints", .list (l.spawnPoints.map SpawnPoint.toValue)),
    ("playerStart", l.playerStart.toValue), ("startRoomId", .ofOption .text l.startRoom),
    ("exits", .list (l.exits.map Exit.toValue))]

end Layout

end Dungeon
