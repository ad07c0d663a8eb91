import Dungeon.Fault
import Dungeon.Graph.NodeData

/-!
# Settings by name

The settings of a node listed under their names, and the replacement of one setting by a value, which
is kept as it was given whether or not it makes sense.
-/

namespace Dungeon

variable {α : Type}

def SizeRange.toValue (r : SizeRange α) : Value α :=
  let size (s : Size α) : Value α := .record [("w", .real s.w), ("h", .real s.h)]
  .record [("min", size r.low), ("max", size r.high)]

def CountRange.toValue (r : CountRange) : Value α :=
  .record [("min", .int r.low), ("max", .int r.high)]

namespace NodeData

/-- Settings under their names. -/
abbrev Named (α : Type) := List (String × Value α)

def countValue (r : Setting CountRange α) : Value α := r.toValue CountRange.toValue

def planSettings (sizeName : String) (p : RoomPlan α) : Named α :=
  [(sizeName, p.size.toValue SizeRange.toValue),
    ("shapes", p.shapes.toValue fun shapes => .texts (shapes.map RoomShape.name)),
    ("door_count", countValue p.doors), ("room_type", p.type), ("tags", p.tags)]

/-- All settings under their names. -/
def settings : NodeData α → Named α
  | start d => [("label", d.label), ("spawn_area", d.spawnArea.toValue fun a => .text a.name)]
  | output d =>
    [("label", d.label), ("exit_type", d.exitType), ("requires_key", d.requiresKey)]
  | room d => ("label", d.label) :: planSettings "size_range" d.plan
  | roomChain d =>
    [("label", d.label), ("count_range", countValue d.count),
      ("connection_style", d.style.toValue fun s => .text s.name)] ++
      planSettings "room_size" d.plan
  | branch d =>
    [("label", d.label), ("weights", d.weights), ("probabilistic", d.probabilistic)]
  | merge d => [("label", d.label), ("strategy", d.strategy.toValue fun s => .text s.name)]
  | spawnPoint d =>
    [("label", d.label), ("entity_type", d.entityType), ("count_range", countValue d.count),
      ("spawn_radius", d.radius)]
  | lootDrop d =>
    [("label", d.label), ("loot_table", d.lootTable), ("drop_chance", d.dropChance),
      ("item_count", countValue d.count)]
  | encounter d =>
    [("label", d.label), ("encounter_type", d.encounterType), ("difficulty", d.difficulty),
      ("enemy_count", countValue d.count), ("reward_on_complete", d.rewardOnComplete)]
  | prop d =>
    [("label", d.label), ("prop_type", d.propType), ("count_range", countValue d.count)]
  | randomSelect d => [("label", d.label), ("weights", d.weights)]
  | sequence d => [("label", d.label)]
  | condition d =>
    [("label", d.label), ("parameter", d.parameter), ("operator", d.operator),
      ("value", d.value)]
  | distribution d =>
    [("label", d.label), ("variable", d.variableName), ("distribution", d.distribution),
      ("min", d.low), ("max", d.high), ("power", d.power), ("lambd", d.rate)]

def toValue (d : NodeData α) : Value α := .record d.settings

/-- The plan of a room with the setting of a name replaced, if it has one. -/
def setPlan (sizeName : String) (p : RoomPlan α) (name : String) (v : Value α) :
    Option (RoomPlan α) :=
  if name = sizeName then some { p with size := .foreign v }
  else
    match name with
    | "shapes" => some { p with shapes := .foreign v }
    | "door_count" => some { p with doors := .foreign v }
    | "room_type" => some { p with type := v }
    | "tags" => some { p with tags := v }
    | _ => none

/-- The settings with the one of a name other than the label replaced, if there is one. -/
def setField (d : NodeData α) (name : String) (v : Value α) : Option (NodeData α) :=
  match d, name with
  | start d, "spawn_area" => some (start { d with spawnArea := .foreign v })
  | output d, "exit_type" => some (output { d with exitType := v })
  | output d, "requires_key" => some (output { d with requiresKey := v })
  | room d, _ => (setPlan "size_range" d.plan name v).map fun plan => room { d with plan }
  | roomChain d, "count_range" => some (roomChain { d with count := .foreign v })
  | roomChain d, "connection_style" => some (roomChain { d with style := .foreign v })
  | roomChain d, _ => (setPlan "room_size" d.plan name v).map fun plan => roomChain { d with plan }
  | branch d, "weights" => some (branch { d with weights := v })
  | branch d, "probabilistic" => some (branch { d with probabilistic := v })
  | merge d, "strategy" => some (merge { d with strategy := .foreign v })
  | spawnPoint d, "entity_type" => some (spawnPoint { d with entityType := v })
  | spawnPoint d, "count_range" => some (spawnPoint { d with count := .foreign v })
  | spawnPoint d, "spawn_radius" => some (spawnPoint { d with radius := v })
  | lootDrop d, "loot_table" => some (lootDrop { d with lootTable := v })
  | lootDrop d, "drop_chance" => some (lootDrop { d with dropChance := v })
  | lootDrop d, "item_count" => some (lootDrop { d with count := .foreign v })
  | encounter d, "encounter_type" => some (encounter { d with encounterType := v })
  | encounter d, "difficulty" => some (encounter { d with difficulty := v })
  | encounter d, "enemy_count" => some (encounter { d with count := .foreign v })
  | encounter d, "reward_on_complete" => some (encounter { d with rewardOnComplete := v })
  | prop d, "prop_type" => some (prop { d with propType := v })
  | prop d, "count_range" => some (prop { d with count := .foreign v })
  | randomSelect d, "weights" => some (randomSelect { d with weights := v })
  | condition d, "parameter" => some (condition { d with parameter := v })
  | condition d, "operator" => some (condition { d with operator := v })
  | condition d, "value" => some (condition { d with value := v })
  | distribution d, "variable" => some (distribution { d with variableName := v })
  | distribution d, "distribution" => some (distribution { d with distribution := v })
  | distribution d, "min" => some (distribution { d with low := v })
  | distribution d, "max" => some (distribution { d with high := v })
  | distribution d, "power" => some (distribution { d with power := v })
  | distribution d, "lambd" => some (distribution { d with rate := v })
  | _, _ => none

def setLabel (v : Value α) : NodeData α → NodeData α
  | start d => start { d with label := v }
  | output d => output { d with label := v }
  | room d => room { d with label := v }
  | roomChain d => roomChain { d with label := v }
  | branch d => branch { d with label := v }
  | merge d => merge { d with label := v }
  | spawnPoint d => spawnPoint { d with label := v }
  | lootDrop d => lootDrop { d with label := v }
  | encounter d => encounter { d with label := v }
  | prop d => prop { d with label := v }
  | randomSelect d => randomSelect { d with label := v }
  | sequence d => sequence { d with label := v }
  | condition d => condition { d with label := v }
  | distribution d => distribution { d with label := v }

/-- Replace one setting; lists are kept as tuples. -/
def set (d : NodeData α) (name : String) (v : Value α) : Except Fault (NodeData α) :=
  let v :=
    match v with
    | .list items => .tuple items
    | v => v
  if name = "label" then .ok (d.setLabel v)
  else
    match d.setField name v with
    | some d => .ok d
    | none => .error (.arguments name)

/-- Replace settings one after the other. -/
def override (d : NodeData α) (settings : Named α) : Except Fault (NodeData α) :=
  settings.foldlM (fun d p => d.set p.1 p.2) d

end NodeData

end Dungeon
