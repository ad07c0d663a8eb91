import Dungeon.Draft
import Mathlib.Data.List.Nodup

/-!
# Contributions

What a node adds to the draft as data: rooms, content for rooms that are there already, connections,
exits and the rest. Contributions add up, and a draft that gains one after the other gains their sum.
What nodes read of a draft are its rooms with their bounds and the start room. Drafts alike in these
stay so when both gain the same.
-/

namespace Dungeon

variable {α : Type}

structure Contribution (α : Type) where
  /-- Entities, each with the room it is put into. -/
  content : List (String × Entity α) := []
  rooms : List (Room α) := []
  connections : List (Connection α) := []
  spawnPoints : List (SpawnPoint α) := []
  exits : List (Exit α) := []
  /-- A room placed as a root. -/
  root : Option String := none
  /-- Where the player starts. -/
  start : Option (SpawnArea × Point α) := none
  warnings : List String := []

/-- The entities for one room. -/
def Contribution.into (k : Contribution α) (id : String) : List (Entity α) :=
  (k.content.filter fun x => x.1 == id).map Prod.snd

namespace Room

/-- The room without its content. -/
def bare (r : Room α) : Room α := { r with entities := [] }

/-- The room with further content. -/
def furnish (k : Contribution α) (r : Room α) : Room α :=
  { r with entities := r.entities ++ k.into r.id }

@[simp] theorem id_furnish (k : Contribution α) (r : Room α) : (r.furnish k).id = r.id := rfl

@[simp] theorem bounds_furnish (k : Contribution α) (r : Room α) :
    (r.furnish k).bounds = r.bounds := rfl

@[simp] theorem bare_furnish (k : Contribution α) (r : Room α) : (r.furnish k).bare = r.bare := rfl

theorem bare_of_empty {r : Room α} (h : r.entities = []) : r.bare = r := by
  rw [bare, ← h]

@[simp] theorem furnish_of_no_content {k : Contribution α} (h : k.content = []) :
    (furnish k : Room α → Room α) = fun r => r := by
  funext r
  simp [furnish, Contribution.into, h]

end Room

namespace Contribution

instance : Append (Contribution α) where
  append k l := {
    content := k.content ++ l.content
    rooms := k.rooms.map (Room.furnish l) ++ l.rooms
    connections := k.connections ++ l.connections
    spawnPoints := k.spawnPoints ++ l.spawnPoints
    exits := k.exits ++ l.exits
    root := k.root.or l.root
    start := l.start.or k.start
    warnings := k.warnings ++ l.warnings }

theorem append_def (k l : Contribution α) : k ++ l = {
    content := k.content ++ l.content
    rooms := k.rooms.map (Room.furnish l) ++ l.rooms
    connections := k.connections ++ l.connections
    spawnPoints := k.spawnPoints ++ l.spawnPoints
    exits := k.exits ++ l.exits
    root := k.root.or l.root
    start := l.start.or k.start
    warnings := k.warnings ++ l.warnings } := rfl

theorem into_append (k l : Contribution α) (id : String) :
    (k ++ l).into id = k.into id ++ l.into id := by
  simp [into, append_def]

theorem into_eq_nil {k : Contribution α} {id : String} (h : ∀ x ∈ k.content, x.1 ≠ id) :
    k.into id = [] := by
  rw [into, List.map_eq_nil_iff, List.filter_eq_nil_iff]
  intro x member same
  exact h x member (by simpa using same)

theorem furnish_append (k l : Contribution α) :
    (Room.furnish (k ++ l) : Room α → Room α) = Room.furnish l ∘ Room.furnish k := by
  funext r
  simp [Room.furnish, into_append]

theorem append_assoc (k l m : Contribution α) : k ++ l ++ m = k ++ (l ++ m) := by
  have rooms : (k.rooms.map (Room.furnish l)).map (Room.furnish m) =
      k.rooms.map (Room.furnish (l ++ m)) := by
    rw [List.map_map, furnish_append]
  rw [append_def (k ++ l) m, append_def k (l ++ m), ← rooms]
  simp [append_def, Option.or_assoc]

@[simp] theorem append_empty (k : Contribution α) : k ++ ({} : Contribution α) = k := by
  simp [append_def]

@[simp] theorem empty_append (k : Contribution α) : ({} : Contribution α) ++ k = k := by
  simp [append_def]

end Contribution

namespace Draft

/-- The draft with a contribution added. -/
def gain (d : Draft α) (k : Contribution α) : Draft α where
  rooms := d.rooms.map (Room.furnish k) ++ k.rooms
  connections := d.connections ++ k.connections
  spawnPoints := d.spawnPoints ++ k.spawnPoints
  exits := d.exits ++ k.exits
  startRoom := d.startRoom.or k.root
  startArea := (k.start.map Prod.fst).getD d.startArea
  startOffset := (k.start.map Prod.snd).getD d.startOffset
  warnings := d.warnings ++ k.warnings

@[simp] theorem gain_empty (d : Draft α) : d.gain {} = d := by
  simp [gain]

theorem gain_append (d : Draft α) (k l : Contribution α) : d.gain (k ++ l) = (d.gain k).gain l := by
  simp only [gain, Contribution.furnish_append]
  simp only [Contribution.append_def, List.map_append, List.map_map, List.append_assoc,
    Option.or_assoc]
  cases l.start <;> rfl

@[simp] theorem startRoom_gain (d : Draft α) (k : Contribution α) :
    (d.gain k).startRoom = d.startRoom.or k.root := rfl

/-- The ids of the rooms, in the order in which they were placed. -/
def ids (d : Draft α) : List String := d.rooms.map Room.id

@[simp] theorem ids_gain (d : Draft α) (k : Contribution α) :
    (d.gain k).ids = d.ids ++ k.rooms.map Room.id := by
  simp [ids, gain, Function.comp_def]

/-- What nodes read of the rooms. -/
def outline (d : Draft α) : List (String × Rect α) := d.rooms.map fun r => (r.id, r.bounds)

theorem outline_gain (d : Draft α) (k : Contribution α) :
    (d.gain k).outline = d.outline ++ k.rooms.map fun r => (r.id, r.bounds) := by
  simp [outline, gain, Function.comp_def]

/-- Nodes cannot tell the drafts apart. -/
structure Alike (d e : Draft α) : Prop where
  outline : d.outline = e.outline
  startRoom : d.startRoom = e.startRoom

theorem Alike.gain {d e : Draft α} (h : d.Alike e) (k : Contribution α) :
    (d.gain k).Alike (e.gain k) where
  outline := by rw [outline_gain, outline_gain, h.outline]
  startRoom := congrArg (Option.or · k.root) h.startRoom

theorem bounds_room? (d : Draft α) (id : String) :
    (d.room? id).map Room.bounds = (d.outline.find? (·.1 == id)).map Prod.snd := by
  simp [room?, outline, List.find?_map, Function.comp_def]

theorem hasRoom_eq (d : Draft α) (id : String) :
    d.hasRoom id = (d.outline.find? (·.1 == id)).isSome := by
  rw [hasRoom, ← Option.isSome_map (f := Room.bounds), bounds_room?, Option.isSome_map]

theorem hasRoom_iff {d : Draft α} {id : String} : d.hasRoom id = true ↔ id ∈ d.ids := by
  simp [hasRoom, room?, ids]

section
variable (d : Draft α)

theorem connect_eq (c : Connection α) : d.connect c = d.gain { connections := [c] } := by
  simp [connect, gain]

theorem addSpawnPoint_eq (p : SpawnPoint α) :
    d.addSpawnPoint p = d.gain { spawnPoints := [p] } := by
  simp [addSpawnPoint, gain]

theorem addExit_eq (x : Exit α) : d.addExit x = d.gain { exits := [x] } := by
  simp [addExit, gain]

theorem setPlayerStart_eq (area : SpawnArea) (offset : Point α) :
    d.setPlayerStart area offset = d.gain { start := some (area, offset) } := by
  simp [setPlayerStart, gain]

theorem warn_eq (nodeId message : String) :
    d.warn nodeId message = d.gain { warnings := [nodeId ++ ": " ++ message] } := by
  simp [warn, gain]

theorem addTagged_eq {r : Room α} {tags : Value α} {given : List (Value α)} (root : Bool)
    (new : r.id ∉ d.ids) (parts : tags.parts = .ok given) :
    d.addTagged r tags root = .ok (d.gain
      { rooms := [{ r with tags := given }], root := if root then some r.id else none }) := by
  have free : ¬ d.hasRoom r.id = true := mt hasRoom_iff.1 new
  rw [addTagged, if_neg free, parts]
  show d.addRoom { r with tags := given } root = _
  rw [addRoom, if_neg free, gain]
  cases d.startRoom <;> cases root <;> simp

theorem addEntity_eq {roomId : String} (e : Entity α) (there : roomId ∈ d.ids) :
    d.addEntity roomId e = .ok (d.gain { content := [(roomId, e)] }) := by
  have furnished (r : Room α) : (if r.id = roomId then { r with entities := r.entities ++ [e] }
      else r) = r.furnish { content := [(roomId, e)] } := by
    by_cases same : r.id = roomId
    · simp [same, Room.furnish, Contribution.into]
    · simp [same, Ne.symm same, Room.furnish, Contribution.into]
  rw [addEntity, if_pos (hasRoom_iff.2 there)]
  simp [gain, furnished]

end

namespace Alike

variable {d e : Draft α} (h : d.Alike e)
include h

theorem ids : e.ids = d.ids := by
  have names (d : Draft α) : d.ids = d.outline.map Prod.fst := by
    simp [Draft.ids, Draft.outline, Function.comp_def]
  rw [names, names, h.outline]

theorem hasRoom : e.hasRoom = d.hasRoom := by
  funext id
  rw [hasRoom_eq, hasRoom_eq, h.outline]

theorem placed : e.placed = d.placed := by
  have bounds (d : Draft α) : d.placed = d.outline.map Prod.snd := by
    simp [Draft.placed, Draft.outline, Function.comp_def]
  rw [bounds, bounds, h.outline]

theorem boundsOf (id : String) : e.boundsOf id = d.boundsOf id := by
  have same : (e.room? id).map Room.bounds = (d.room? id).map Room.bounds := by
    rw [bounds_room?, bounds_room?, h.outline]
  unfold Draft.boundsOf
  cases he : e.room? id <;> cases hd : d.room? id <;> simp_all

end Alike

end Draft

/-- The contribution without content and spawn points. -/
def Contribution.plain (k : Contribution α) : Contribution α :=
  { k with rooms := k.rooms.map Room.bare, content := [], spawnPoints := [] }

namespace Draft

/-- The draft without content and spawn points. -/
def plain (d : Draft α) : Draft α := { d with rooms := d.rooms.map Room.bare, spawnPoints := [] }

@[simp] theorem ids_plain (d : Draft α) : d.plain.ids = d.ids := by
  simp [ids, plain, Room.bare, Function.comp_def]

@[simp] theorem outline_plain (d : Draft α) : d.plain.outline = d.outline := by
  simp [outline, plain, Room.bare, Function.comp_def]

theorem plain_gain (d : Draft α) (k : Contribution α) : (d.gain k).plain = d.plain.gain k.plain := by
  simp [plain, gain, Contribution.plain, Function.comp_def]

/-- Drafts that differ in content alone are alike. -/
theorem alike_of_plain {d e : Draft α} (same : d.plain = e.plain) : d.Alike e where
  outline := by rw [← d.outline_plain, same, outline_plain]
  startRoom := (congrArg startRoom same : d.plain.startRoom = e.plain.startRoom)

theorem ids_eq_of_plain {d e : Draft α} (same : d.plain = e.plain) : d.ids = e.ids := by
  rw [← d.ids_plain, same, ids_plain]

/-- Content does not move the player. -/
theorem playerStart_plain [Scalar α] (d : Draft α) : d.plain.playerStart = d.playerStart := by
  have found (id : String) : d.plain.room? id = (d.room? id).map Room.bare := by
    rw [room?, plain, List.find?_map]
    rfl
  have room : d.plain.startRoom.bind d.plain.room? =
      (d.startRoom.bind d.room?).map Room.bare := by
    show d.startRoom.bind d.plain.room? = _
    cases d.startRoom with
    | none => rfl
    | some id => exact found id
  rw [playerStart, playerStart, room]
  cases d.startRoom.bind d.room? <;> rfl

end Draft

end Dungeon
