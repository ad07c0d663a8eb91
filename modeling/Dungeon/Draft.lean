import Dungeon.Conversion
import Dungeon.Graph.NodeData
import Dungeon.Layout

/-!
# Drafts

The layout of a run while nodes still write to it. Nodes only add: rooms, content for placed rooms,
connections, exits and warnings. A write that fails leaves the draft as it was.
-/

namespace Dungeon

structure Draft (α : Type) where
  rooms : List (Room α) := []
  connections : List (Connection α) := []
  spawnPoints : List (SpawnPoint α) := []
  exits : List (Exit α) := []
  /-- The first room that was placed as a root. -/
  startRoom : Option String := none
  startArea : SpawnArea := .center
  /-- Where in the first room a random start lies, as fractions of its sides. -/
  startOffset : Point α
  warnings : List String := []

namespace Draft

variable {α : Type}

def room? (d : Draft α) (id : String) : Option (Room α) := d.rooms.find? (·.id == id)

def hasRoom (d : Draft α) (id : String) : Bool := (d.room? id).isSome

def placed (d : Draft α) : List (Rect α) := d.rooms.map Room.bounds

def boundsOf (d : Draft α) (id : String) : Except Fault (Rect α) :=
  match d.room? id with
  | some r => .ok r.bounds
  | none => .error (.missingKey (Text.quote id))

/-- Place a room; the first root room is where the player starts. -/
def addRoom (d : Draft α) (r : Room α) (root : Bool) : Except Fault (Draft α) :=
  if d.hasRoom r.id then .error (.roomTaken r.id)
  else .ok { d with
    rooms := d.rooms ++ [r]
    startRoom := if root && d.startRoom.isNone then some r.id else d.startRoom }

/-- Place a room with the tags that a value holds; a room id that is taken is noticed first. -/
def addTagged (d : Draft α) (r : Room α) (tags : Value α) (root : Bool) :
    Except Fault (Draft α) :=
  if d.hasRoom r.id then .error (.roomTaken r.id)
  else do d.addRoom { r with tags := ← tags.parts } root

/-- Put an entity into a placed room. -/
def addEntity (d : Draft α) (roomId : String) (e : Entity α) : Except Fault (Draft α) :=
  if d.hasRoom roomId then
    .ok { d with
      rooms := d.rooms.map fun r =>
        if r.id = roomId then { r with entities := r.entities ++ [e] } else r }
  else .error (.missingKey (Text.quote roomId))

def connect (d : Draft α) (c : Connection α) : Draft α :=
  { d with connections := d.connections ++ [c] }

def addSpawnPoint (d : Draft α) (s : SpawnPoint α) : Draft α :=
  { d with spawnPoints := d.spawnPoints ++ [s] }

def addExit (d : Draft α) (e : Exit α) : Draft α := { d with exits := d.exits ++ [e] }

def setPlayerStart (d : Draft α) (area : SpawnArea) (offset : Point α) : Draft α :=
  { d with startArea := area, startOffset := offset }

/-- Add a warning of a node. -/
def warn (d : Draft α) (nodeId message : String) : Draft α :=
  { d with warnings := d.warnings ++ [nodeId ++ ": " ++ message] }

variable [Scalar α]

def empty : Draft α := { startOffset := ⟨0.5, 0.5⟩ }

/-- How far behind the left edge an entrance lies. -/
def entranceDepth : α := 1.0

/-- The place in a room where the player starts. -/
def startIn (d : Draft α) (bounds : Rect α) : Point α :=
  match d.startArea with
  | .entrance =>
    ⟨bounds.x + Scalar.min entranceDepth (bounds.width / 2.0), bounds.center.y⟩
  | .random =>
    ⟨bounds.x + d.startOffset.x * bounds.width, bounds.y + d.startOffset.y * bounds.height⟩
  | .center => bounds.center

def playerStart (d : Draft α) : Point α :=
  match d.startRoom.bind d.room? with
  | some r => d.startIn r.bounds
  | none => ⟨0.0, 0.0⟩

def toLayout (d : Draft α) : Layout α :=
  { rooms := d.rooms, connections := d.connections, spawnPoints := d.spawnPoints
    playerStart := d.playerStart, startRoom := d.startRoom, exits := d.exits }

end Draft

end Dungeon
