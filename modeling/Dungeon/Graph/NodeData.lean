import Dungeon.Value

/-!
# What nodes are set to

Each kind of node has one record of settings, with the defaults of a node placed in the editor. A
node's kind is the kind of its record. Settings that only pass through a run are plain values; those
that a run takes apart are a `Setting` of their own type.
-/

namespace Dungeon

/-- The kinds of nodes. -/
inductive NodeKind
  | start
  | output
  | room
  | roomChain
  | branch
  | merge
  | spawnPoint
  | lootDrop
  | encounter
  | prop
  | randomSelect
  | sequence
  | condition
  | distribution
  deriving DecidableEq

namespace NodeKind

def all : List NodeKind :=
  [start, output, room, roomChain, branch, merge, spawnPoint, lootDrop, encounter, prop,
    randomSelect, sequence, condition, distribution]

def name : NodeKind → String
  | start => "start"
  | output => "output"
  | room => "room"
  | roomChain => "room_chain"
  | branch => "branch"
  | merge => "merge"
  | spawnPoint => "spawn_point"
  | lootDrop => "loot_drop"
  | encounter => "encounter"
  | prop => "prop"
  | randomSelect => "random_select"
  | sequence => "sequence"
  | condition => "condition"
  | distribution => "distribution"

def ofName? (s : String) : Option NodeKind := all.find? fun k => k.name == s

/-- Content is put into a room and passes nothing on. -/
def isContent : NodeKind → Bool
  | spawnPoint | lootDrop | encounter | prop => true
  | _ => false

end NodeKind

structure Size (α : Type) where
  w : α
  h : α

/-- The sizes between two corners. -/
structure SizeRange (α : Type) where
  low : Size α
  high : Size α

/-- The whole numbers between two bounds, both included. -/
structure CountRange where
  low : Int
  high : Int
  deriving DecidableEq

def CountRange.problems (r : CountRange) (name : String) : List String :=
  (if r.low < 0 then [name ++ " must not be negative"] else []) ++
    if r.high < r.low then
      [name ++ " min " ++ toString r.low ++ " exceeds max " ++ toString r.high]
    else []

/-- The shapes of rooms. -/
inductive RoomShape
  | rectangular
  | lShaped
  | circular
  | irregular
  deriving DecidableEq

def RoomShape.name : RoomShape → String
  | rectangular => "rectangular"
  | lShaped => "l-shaped"
  | circular => "circular"
  | irregular => "irregular"

/-- How the rooms of a chain hang together. -/
inductive ConnectionStyle
  | linear
  | branching
  deriving DecidableEq

def ConnectionStyle.name : ConnectionStyle → String
  | linear => "linear"
  | branching => "branching"

/-- What a merge waits for: every path, or the first to arrive. -/
inductive MergeStrategy
  | all
  | any
  | first
  deriving DecidableEq

def MergeStrategy.name : MergeStrategy → String
  | all => "all"
  | any => "any"
  | first => "first"

/-- Where in the first room the player starts. -/
inductive SpawnArea
  | center
  | entrance
  | random
  deriving DecidableEq

def SpawnArea.name : SpawnArea → String
  | center => "center"
  | entrance => "entrance"
  | random => "random"

/-- A setting as it is meant, or any other value that was put in its place. -/
inductive Setting (β α : Type)
  | proper (x : β)
  | foreign (v : Value α)

namespace Setting

variable {α β : Type}

/-- The setting, or a default in place of any other value. -/
def getD (s : Setting β α) (default : β) : β :=
  match s with
  | proper x => x
  | foreign _ => default

def toValue (f : β → Value α) : Setting β α → Value α
  | proper x => f x
  | foreign v => v

@[simp] theorem getD_proper (x default : β) : (proper x : Setting β α).getD default = x := rfl

end Setting

/-- The difficulties, from 1 up. -/
def difficultyLevels : List (String × Nat) :=
  [("trivial", 1), ("easy", 2), ("medium", 3), ("hard", 4), ("deadly", 5)]

def conditionOperators : List String := ["eq", "ne", "gt", "ge", "lt", "le", "truthy"]

def distributionNames : List String := ["uniform", "bell", "triangle", "power", "exponential"]

/-- What a room needs, whether it stands alone or in a chain. -/
structure RoomPlan (α : Type) where
  size : Setting (SizeRange α) α
  shapes : Setting (List RoomShape) α := .proper [.rectangular]
  doors : Setting CountRange α := .proper ⟨1, 4⟩
  type : Value α := .text "default"
  tags : Value α := .tuple []

structure StartData (α : Type) where
  label : Value α := .text "Start"
  spawnArea : Setting SpawnArea α := .proper .center

structure OutputData (α : Type) where
  label : Value α := .text "Output"
  exitType : Value α := .text "stairs"
  requiresKey : Value α := .bool false

structure RoomData (α : Type) where
  label : Value α := .text "Room"
  plan : RoomPlan α

structure RoomChainData (α : Type) where
  label : Value α := .text "Room Chain"
  count : Setting CountRange α := .proper ⟨3, 5⟩
  style : Setting ConnectionStyle α := .proper .linear
  plan : RoomPlan α

structure BranchData (α : Type) where
  label : Value α := .text "Branch"
  weights : Value α
  probabilistic : Value α := .bool false

structure MergeData (α : Type) where
  label : Value α := .text "Merge"
  strategy : Setting MergeStrategy α := .proper .all

structure SpawnPointData (α : Type) where
  label : Value α := .text "Spawn Point"
  entityType : Value α := .text "enemy"
  count : Setting CountRange α := .proper ⟨1, 3⟩
  radius : Value α

structure LootDropData (α : Type) where
  label : Value α := .text "Loot Drop"
  lootTable : Value α := .text "default"
  dropChance : Value α
  count : Setting CountRange α := .proper ⟨1, 3⟩

structure EncounterData (α : Type) where
  label : Value α := .text "Encounter"
  encounterType : Value α := .text "combat"
  difficulty : Value α := .text "medium"
  count : Setting CountRange α := .proper ⟨1, 4⟩
  rewardOnComplete : Value α := .bool true

structure PropData (α : Type) where
  label : Value α := .text "Prop"
  propType : Value α := .text "decoration"
  count : Setting CountRange α := .proper ⟨1, 3⟩

/-- No weights mean equal weights. -/
structure RandomSelectData (α : Type) where
  label : Value α := .text "Random Select"
  weights : Value α := .tuple []

structure SequenceData (α : Type) where
  label : Value α := .text "Sequence"

structure ConditionData (α : Type) where
  label : Value α := .text "Condition"
  parameter : Value α := .text ""
  operator : Value α := .text "truthy"
  value : Value α := .null

structure DistributionData (α : Type) where
  label : Value α := .text "Distribution"
  variableName : Value α := .text "difficulty"
  distribution : Value α := .text "uniform"
  low : Value α
  high : Value α
  power : Value α
  rate : Value α

/-- The settings of a node. -/
inductive NodeData (α : Type)
  | start (d : StartData α)
  | output (d : OutputData α)
  | room (d : RoomData α)
  | roomChain (d : RoomChainData α)
  | branch (d : BranchData α)
  | merge (d : MergeData α)
  | spawnPoint (d : SpawnPointData α)
  | lootDrop (d : LootDropData α)
  | encounter (d : EncounterData α)
  | prop (d : PropData α)
  | randomSelect (d : RandomSelectData α)
  | sequence (d : SequenceData α)
  | condition (d : ConditionData α)
  | distribution (d : DistributionData α)

def NodeData.kind {α : Type} : NodeData α → NodeKind
  | start _ => .start
  | output _ => .output
  | room _ => .room
  | roomChain _ => .roomChain
  | branch _ => .branch
  | merge _ => .merge
  | spawnPoint _ => .spawnPoint
  | lootDrop _ => .lootDrop
  | encounter _ => .encounter
  | prop _ => .prop
  | randomSelect _ => .randomSelect
  | sequence _ => .sequence
  | condition _ => .condition
  | distribution _ => .distribution

variable {α : Type} [Scalar α]

namespace SizeRange

def problems (r : SizeRange α) : List String :=
  (if Scalar.le r.low.w 0.0 || Scalar.le r.low.h 0.0 then ["room size must be positive"] else []) ++
    if Scalar.lt r.high.w r.low.w || Scalar.lt r.high.h r.low.h then
      ["size range min exceeds max"]
    else []

/-- The sizes of a single room. -/
def ofRoom : SizeRange α := ⟨⟨5.0, 5.0⟩, ⟨10.0, 10.0⟩⟩

/-- The sizes of a room in a chain. -/
def ofChain : SizeRange α := ⟨⟨5.0, 5.0⟩, ⟨8.0, 8.0⟩⟩

end SizeRange

namespace NodeKind

/-- The settings of a fresh node. -/
def defaults : NodeKind → NodeData α
  | start => .start {}
  | output => .output {}
  | room => .room { plan := { size := .proper .ofRoom } }
  | roomChain => .roomChain { plan := { size := .proper .ofChain } }
  | branch => .branch { weights := .tuple [.real 0.5, .real 0.5] }
  | merge => .merge {}
  | spawnPoint => .spawnPoint { radius := .real 2.0 }
  | lootDrop => .lootDrop { dropChance := .real 1.0 }
  | encounter => .encounter {}
  | prop => .prop {}
  | randomSelect => .randomSelect {}
  | sequence => .sequence {}
  | condition => .condition {}
  | distribution =>
    .distribution { low := .real 0.0, high := .real 1.0, power := .real 2.0, rate := .real 1.0 }

/-- A fresh node is of its own kind. -/
theorem kind_defaults (k : NodeKind) : (k.defaults : NodeData α).kind = k := by cases k <;> rfl

end NodeKind

end Dungeon
