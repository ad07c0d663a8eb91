import Dungeon.Work.Basic

/-!
# Start, exits and content

The start says where the player starts. An output makes an exit of the room it is attached to.
Content nodes put entities into that room; nothing flows on from them.
-/

namespace Dungeon

variable {σ α : Type} [Scalar α] [Source σ α]

namespace Job

def start (j : Job α) (d : StartData α) : Work σ α (Outcome α) := do
  let area := d.spawnArea.getD .center
  let offset ← match area with
    | .random => do
      let x ← Work.draw (Draw.between 0.2 0.8)
      let y ← Work.draw (Draw.between 0.2 0.8)
      pure ⟨x, y⟩
    | _ => pure ⟨0.5, 0.5⟩
  Work.write fun draft => draft.setPlayerStart area offset
  return j.everywhere Fragment.empty

omit [Source σ α] in
def output (j : Job α) (d : OutputData α) (incoming : List (Fragment α)) :
    Work σ α (Outcome α) := do
  let roomId ← j.anchor (← j.single incoming)
  let bounds ← Work.boundsOf roomId
  Work.write fun draft => draft.addExit {
    position := bounds.center, roomId, type := d.exitType, requiresKey := d.requiresKey
    nodeId := some j.node.id }
  return Table.empty

/-- A point for an entity: anywhere in the room, or within a radius of its centre. -/
def entityPoint (bounds : Rect α) : Option α → Draw σ (Point α)
  | none => Placement.pointInRoom bounds Placement.wallPadding
  | some radius => Placement.pointNearCentre bounds radius Placement.wallPadding

def entityId (nodeId : String) (type : Value α) (i : Nat) : String :=
  nodeId ++ ":" ++ type.plain ++ ":" ++ toString i

/-- Put entities numbered from `i` on into a room, and give them back. -/
def placeFrom (j : Job α) (roomId : String) (type : Value α) (metadata : Metadata α) (radius : Option α)
    (bounds : Rect α) (i : Nat) : Nat → Work σ α (List (Entity α))
  | 0 => pure []
  | n + 1 => do
    let position ← Work.draw (entityPoint bounds radius)
    let id ← Work.lift (Value.writing [type] (entityId j.node.id type i))
    let e : Entity α := { id, type, position, metadata }
    Work.tryWrite fun d => d.addEntity roomId e
    let rest ← placeFrom j roomId type metadata radius bounds (i + 1) n
    return e :: rest

def place (j : Job α) (roomId : String) (type : Value α) (metadata : Metadata α) (radius : Option α)
    (count : Nat) : Work σ α (List (Entity α)) := do
  placeFrom j roomId type metadata radius (← Work.boundsOf roomId) 0 count

def spawnPoint (j : Job α) (d : SpawnPointData α) (incoming : List (Fragment α)) :
    Work σ α (Outcome α) := do
  let roomId ← j.anchor (← j.single incoming)
  if ← Work.lift (Value.compare .lt d.radius (.int 0)) then
    j.fail "spawnRadius must not be negative"
  let n ← j.count d.count "countRange"
  let radius ← if n = 0 then pure none else some <$> Work.lift d.radius.toReal
  let entities ← j.place roomId d.entityType [] radius n
  for e in entities do
    Work.write fun draft => draft.addSpawnPoint ⟨e.id, e.type, e.position, roomId⟩
  return Table.empty

def lootDrop (j : Job α) (d : LootDropData α) (incoming : List (Fragment α)) :
    Work σ α (Outcome α) := do
  let roomId ← j.anchor (← j.single incoming)
  let least ← Work.lift (Value.compare .le (.real 0.0) d.dropChance)
  let fits ← if least then Work.lift (Value.compare .le d.dropChance (.real 1.0)) else pure false
  if !fits then j.failOver [d.dropChance] ("dropChance " ++ d.dropChance.plain ++ " outside [0, 1]")
  if ← Work.draw (Draw.chance d.dropChance) then
    let n ← j.count d.count "itemCount"
    let _ ← j.place roomId (.text "loot") (.ofTexts [("lootTable", d.lootTable)]) none n
  return Table.empty

omit [Scalar α] [Source σ α] in
def encounterMetadata (d : EncounterData α) (level : Nat) : Metadata α :=
  .ofTexts [("encounterType", d.encounterType), ("difficulty", .int level),
    ("difficultyLabel", d.difficulty), ("rewardOnComplete", d.rewardOnComplete)]

omit [Scalar α] [Source σ α] in
/-- The level of a difficulty, if it is one. -/
def level? (difficulty : Value α) : Option Nat :=
  difficulty.text?.bind fun name => difficultyLevels.lookup name

def encounter (j : Job α) (d : EncounterData α) (incoming : List (Fragment α)) :
    Work σ α (Outcome α) := do
  let roomId ← j.anchor (← j.single incoming)
  match level? (← Work.lift d.difficulty.key) with
  | none => j.failOver [d.difficulty] ("unknown difficulty " ++ d.difficulty.quoted)
  | some level =>
    let n ← j.count d.count "enemyCount"
    let _ ← j.place roomId (.text "enemy") (encounterMetadata d level) none n
    return Table.empty

def prop (j : Job α) (d : PropData α) (incoming : List (Fragment α)) :
    Work σ α (Outcome α) := do
  let roomId ← j.anchor (← j.single incoming)
  let n ← j.count d.count "countRange"
  let _ ← j.place roomId (.text "prop") (.ofTexts [("propType", d.propType)]) none n
  return Table.empty

end Job

end Dungeon
