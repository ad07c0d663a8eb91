import Dungeon.Graph.Ports
import Dungeon.Graph.Settings
import Dungeon.Text.Case

/-!
# Reading graphs

The editor keeps a graph as an object with nodes, edges and groups. A node's settings are read into
the record of its kind, field by field; the first field that is wrong decides the fault. Reading a
graph goes on after a bad node or edge and reports all of them together.
-/

namespace Dungeon

variable {α : Type} [Scalar α]

namespace Value

def asNumber (v : Value α) (name : String) : Except Fault α :=
  match v with
  | .num n => n.toScalar
  | v => .error (.quoting [v] (.expected name .number v.quoted))

/-- A whole number, written as a whole or a real number. -/
def asInteger (v : Value α) (name : String) : Except Fault Int :=
  match v with
  | .num (.whole n) => .ok n
  | .num (.real x) => do
    let n ← (Scalar.truncate x).mapError NoWhole.fault
    if Number.eq (.whole n) (.real x) then return n
    else throw (.expected name .integer v.quoted)
  | v => .error (.quoting [v] (.expected name .integer v.quoted))

def asBool (v : Value α) (name : String) : Except Fault Bool :=
  match v with
  | .bool b => .ok b
  | v => .error (.quoting [v] (.expected name .boolean v.quoted))

def asString (v : Value α) (name : String) : Except Fault String :=
  match v with
  | .text s => .ok s
  | v => .error (.quoting [v] (.expected name .string v.quoted))

/-- One of a list of named choices, whatever the case of its letters. -/
def asChoice {β : Type} (v : Value α) (name : String) (choices : List β) (text : β → String) :
    Except Fault β := do
  let given ← v.toText
  match choices.find? fun c => text c == Text.lower given with
  | some c => return c
  | none => throw (.notOneOf name (choices.map text) v.quoted)

def asSize (v : Value α) (name : String) : Except Fault (Size α) :=
  match v with
  | .object ps => do
    let w ← (field ps "w").asNumber (name ++ ".w")
    let h ← (field ps "h").asNumber (name ++ ".h")
    return ⟨w, h⟩
  | _ => .error (.expectedSize name)

/-- A range of sizes; a missing corner is that of the default. -/
def asSizeRange (v : Value α) (default : SizeRange α) (name : String) :
    Except Fault (SizeRange α) :=
  match v with
  | .null => .ok default
  | .object ps => do
    let corner (key : String) (d : Size α) : Except Fault (Size α) :=
      match Fields.named? ps key with
      | some v => v.asSize (name ++ "." ++ key)
      | none => .ok d
    let low ← corner "min" default.low
    let high ← corner "max" default.high
    return ⟨low, high⟩
  | _ => .error (.expectedSizeRange name)

/-- A range of whole numbers; a single number stands for itself alone. -/
def asCountRange (v : Value α) (default : CountRange) (name : String) : Except Fault CountRange :=
  match v with
  | .null => .ok default
  | .num _ => do
    let n ← v.asInteger name
    return ⟨n, n⟩
  | .object ps => do
    let low ← (fieldOr ps "min" (.int default.low)).asInteger (name ++ ".min")
    let high ← (fieldOr ps "max" (.int default.high)).asInteger (name ++ ".max")
    return ⟨low, high⟩
  | _ => .error (.expectedRange name)

/-- The numbers of a list of weights, numbered from `i` on. -/
def weightsFrom : Nat → List (Value α) → Except Fault (List (Value α))
  | _, [] => .ok []
  | i, v :: rest => do
    let x ← v.asNumber ("weights[" ++ toString i ++ "]")
    let rest ← weightsFrom (i + 1) rest
    return .real x :: rest

def asWeights (v default : Value α) : Except Fault (Value α) :=
  match v with
  | .null => .ok default
  | .list vs => .tuple <$> weightsFrom 0 vs
  | _ => .error .weightsNotList

def shapeNames : List (String × RoomShape) :=
  [("rectangular", .rectangular), ("rect", .rectangular), ("l-shaped", .lShaped),
    ("lshaped", .lShaped), ("circular", .circular), ("circle", .circular),
    ("irregular", .irregular)]

def asShape (v : Value α) : Except Fault RoomShape := do
  match shapeNames.lookup (Text.lower (← v.toText)) with
  | some shape => return shape
  | none => throw (.unknownShape v.quoted)

/-- The shapes of a room: one name or several. -/
def asShapes (v : Value α) (default : List RoomShape) : Except Fault (List RoomShape) :=
  match v with
  | .null => .ok default
  | .text _ => do return [← v.asShape]
  | v => do
    let shapes ← (← v.parts).mapM asShape
    if shapes.isEmpty then throw .noShapes
    return shapes

def asTags (v : Value α) : Except Fault (List String) :=
  match v with
  | .null => .ok []
  | .list vs => vs.mapM fun v => v.asString "tag"
  | _ => .error .tagsNotList

/-- The count range of a field, as a setting. -/
def countSetting (ps : Fields α) (key : String) (default : CountRange) :
    Except Fault (Setting CountRange α) :=
  .proper <$> (field ps key).asCountRange default key

end Value

namespace NodeData

open Value

/-- What a room of the given sizes needs, from the settings of a room node. -/
def readPlan (ps : Fields α) (size : SizeRange α) : Except Fault (RoomPlan α) := do
  let shapes ← (fieldOr ps "shapes" (field ps "shape")).asShapes [.rectangular]
  let doors ← countSetting ps "doorCount" ⟨1, 4⟩
  let type ← (fieldOr ps "roomType" (.text "default")).asString "roomType"
  let tags ← (field ps "tags").asTags
  return {
    size := .proper size, shapes := .proper shapes, doors, type := .text type
    tags := .tuple (tags.map .text) }

def label (ps : Fields α) (default : String) : Value α := fieldOr ps "label" (.text default)

def spawnAreas : List SpawnArea := [.center, .entrance, .random]

def mergeStrategies : List MergeStrategy := [.all, .any, .first]

def connectionStyles : List ConnectionStyle := [.linear, .branching]

def readStart (ps : Fields α) : Except Fault (StartData α) := do
  let spawnArea ←
    (fieldOr ps "spawnArea" (.text "center")).asChoice "spawnArea" spawnAreas SpawnArea.name
  return { label := label ps "Start", spawnArea := .proper spawnArea }

def readOutput (ps : Fields α) : Except Fault (OutputData α) := do
  let exitType ← (fieldOr ps "exitType" (.text "stairs")).asString "exitType"
  let requiresKey ← (fieldOr ps "requiresKey" (.bool false)).asBool "requiresKey"
  return { label := label ps "Output", exitType := .text exitType
           requiresKey := .bool requiresKey }

def readRoom (ps : Fields α) : Except Fault (RoomData α) := do
  let size ← (field ps "sizeRange").asSizeRange .ofRoom "sizeRange"
  let plan ← readPlan ps size
  return { label := label ps "Room", plan }

def readRoomChain (ps : Fields α) : Except Fault (RoomChainData α) := do
  let count ← countSetting ps "countRange" ⟨3, 5⟩
  let size ← (field ps "roomSize").asSizeRange .ofChain "roomSize"
  let style ← (fieldOr ps "connectionStyle" (.text "linear")).asChoice "connectionStyle"
    connectionStyles ConnectionStyle.name
  let plan ← readPlan ps size
  return { label := label ps "Room Chain", count, style := .proper style, plan }

def readBranch (ps : Fields α) : Except Fault (BranchData α) := do
  let weights ← (field ps "weights").asWeights (.tuple [.real 0.5, .real 0.5])
  let probabilistic ← (fieldOr ps "probabilistic" (.bool false)).asBool "probabilistic"
  return { label := label ps "Branch", weights, probabilistic := .bool probabilistic }

def readMerge (ps : Fields α) : Except Fault (MergeData α) := do
  let strategy ←
    (fieldOr ps "strategy" (.text "all")).asChoice "strategy" mergeStrategies MergeStrategy.name
  return { label := label ps "Merge", strategy := .proper strategy }

def readSpawnPoint (ps : Fields α) : Except Fault (SpawnPointData α) := do
  let entityType ← (fieldOr ps "entityType" (.text "enemy")).asString "entityType"
  let count ← countSetting ps "countRange" ⟨1, 3⟩
  let radius ← (fieldOr ps "spawnRadius" (.real 2.0)).asNumber "spawnRadius"
  return { label := label ps "Spawn Point", entityType := .text entityType, count
           radius := .real radius }

def readLootDrop (ps : Fields α) : Except Fault (LootDropData α) := do
  let lootTable ← (fieldOr ps "lootTable" (.text "default")).asString "lootTable"
  let dropChance ← (fieldOr ps "dropChance" (.real 1.0)).asNumber "dropChance"
  let count ← countSetting ps "itemCount" ⟨1, 3⟩
  return { label := label ps "Loot Drop", lootTable := .text lootTable
           dropChance := .real dropChance, count }

def readEncounter (ps : Fields α) : Except Fault (EncounterData α) := do
  let given ← (fieldOr ps "difficulty" (.text "medium")).asString "difficulty"
  let difficulty := Text.lower given
  if (difficultyLevels.lookup difficulty).isNone then
    throw (.notOneOf "difficulty" (difficultyLevels.map Prod.fst) (Text.quote difficulty))
  let encounterType ← (fieldOr ps "encounterType" (.text "combat")).asString "encounterType"
  let count ← countSetting ps "enemyCount" ⟨1, 4⟩
  let rewardOnComplete ←
    (fieldOr ps "rewardOnComplete" (.bool true)).asBool "rewardOnComplete"
  return {
    label := label ps "Encounter", encounterType := .text encounterType
    difficulty := .text difficulty, count, rewardOnComplete := .bool rewardOnComplete }

def readProp (ps : Fields α) : Except Fault (PropData α) := do
  let propType ← (fieldOr ps "propType" (.text "decoration")).asString "propType"
  let count ← countSetting ps "countRange" ⟨1, 3⟩
  return { label := label ps "Prop", propType := .text propType, count }

def readRandomSelect (ps : Fields α) : Except Fault (RandomSelectData α) := do
  let weights ← (field ps "weights").asWeights (.tuple [])
  return { label := label ps "Random Select", weights }

def readCondition (ps : Fields α) : Except Fault (ConditionData α) := do
  let operator ← (fieldOr ps "operator" (.text "truthy")).asString "operator"
  if !conditionOperators.contains operator then
    throw (.notOneOf "operator" conditionOperators (Text.quote operator))
  let parameter ← (fieldOr ps "parameter" (.text "")).asString "parameter"
  return { label := label ps "Condition", parameter := .text parameter
           operator := .text operator, value := field ps "value" }

def readDistribution (ps : Fields α) : Except Fault (DistributionData α) := do
  let distribution ← (fieldOr ps "distribution" (.text "uniform")).asString "distribution"
  if !distributionNames.contains distribution then
    throw (.notOneOf "distribution" distributionNames (Text.quote distribution))
  let variableName ← (fieldOr ps "variable" (.text "difficulty")).asString "variable"
  let low ← (fieldOr ps "min" (.real 0.0)).asNumber "min"
  let high ← (fieldOr ps "max" (.real 1.0)).asNumber "max"
  let power ← (fieldOr ps "power" (.real 2.0)).asNumber "power"
  let rate ← (fieldOr ps "lambd" (.real 1.0)).asNumber "lambd"
  return {
    label := label ps "Distribution", variableName := .text variableName
    distribution := .text distribution
    low := .real low, high := .real high, power := .real power, rate := .real rate }

/-- The settings of a node of a kind from the fields of its object. -/
def readFields (ps : Fields α) : NodeKind → Except Fault (NodeData α)
  | .start => .start <$> readStart ps
  | .output => .output <$> readOutput ps
  | .room => .room <$> readRoom ps
  | .roomChain => .roomChain <$> readRoomChain ps
  | .branch => .branch <$> readBranch ps
  | .merge => .merge <$> readMerge ps
  | .spawnPoint => .spawnPoint <$> readSpawnPoint ps
  | .lootDrop => .lootDrop <$> readLootDrop ps
  | .encounter => .encounter <$> readEncounter ps
  | .prop => .prop <$> readProp ps
  | .randomSelect => .randomSelect <$> readRandomSelect ps
  | .sequence => .ok (.sequence { label := label ps "Sequence" })
  | .condition => .condition <$> readCondition ps
  | .distribution => .distribution <$> readDistribution ps

/-- The settings of a node of a kind; a value that does not hold stands for no settings. -/
def read (kind : NodeKind) (v : Value α) : Except Fault (NodeData α) :=
  if v.truthy then
    match v with
    | .object ps => readFields ps kind
    | _ => .error .dataNotObject
  else readFields [] kind

end NodeData

open Value

def NodeKind.read (v : Value α) : Except Fault NodeKind :=
  match v.text?.bind ofName? with
  | some k => .ok k
  | none => .error (.quoting [v] (.unknownNodeType v.quoted))

/-- A port, which may name the side it is on. -/
def Port.read (side : PortSide) (v : Value α) : Except Fault (Port α) := do
  let ps ← v.members "get"
  let declared := fieldOr ps "type" (.text side.name)
  if !Value.eq declared (.text side.name) then
    let id := field ps "id"
    throw (.quoting [id, declared] (.portSide id.plain declared.quoted side.name))
  let id ← (field ps "id").asString "port id"
  let dataType ← (fieldOr ps "dataType" (.text "room")).asString "dataType"
  return { id, side, dataType, label := field ps "label" }

def Edge.readEnd (side : String) (ps : Fields α) : Except Fault PortRef := do
  let node ← (field ps "nodeId").asString (side ++ ".nodeId")
  let port ← (field ps "portId").asString (side ++ ".portId")
  return ⟨node, port⟩

/-- An edge, which is named after its index when it has no id. -/
def Edge.read (index : Int) (v : Value α) : Except Fault (Edge α) := do
  let ps ← v.members "get"
  let id ← (fieldOr ps "id" (.text ("edge_" ++ toString index))).toText
  let source ← Edge.readEnd "source" (← (field ps "source").membersOrNone "get")
  let target ← Edge.readEnd "target" (← (field ps "target").membersOrNone "get")
  let extra ← (field ps "metadata").membersOrNone "get"
  return { id, source, target, label := field extra "label" }

/-- The ports a node declares, or those of a fresh node. -/
def Node.readPorts (ps : Fields α) (key : String) (side : PortSide) (default : List (Port α)) :
    Except Fault (List (Port α)) :=
  match field ps key with
  | .null => .ok default
  | v => do (← v.parts).mapM (Port.read side)

def Node.read (v : Value α) : Except Fault (Node α) := do
  let ps ← v.members "get"
  let id ← (field ps "id").asString "node id"
  let type ← (field ps "type").asString ("type of node '" ++ id ++ "'")
  let kind ← NodeKind.read (.text type : Value α)
  let data ← NodeData.read kind (field ps "data")
  let ports ← data.ports
  let inputs ← Node.readPorts ps "inputs" .input ports.inputs
  let outputs ← Node.readPorts ps "outputs" .output ports.outputs
  let place ← (field ps "position").membersOrNone "get"
  let x ← (fieldOr place "x" (.real 0.0)).toReal
  let y ← (fieldOr place "y" (.real 0.0)).toReal
  return { id, data, inputs, outputs, position := ⟨.real x, .real y⟩ }

namespace Graph

/-- Faults that are reported with the other bad parts of a graph; the rest end the reading. -/
def collected (f : Fault) : Bool :=
  match f.kind with
  | .value | .key | .type | .attribute => true
  | _ => false

/-- The mark of a fault about a node's type. -/
def unknownTypeMark : String := "Unknown node type"

omit [Scalar α] in
/-- What a node is called in its report. -/
def givenId : Value α → Value α
  | .object ps => field ps "id"
  | _ => .null

/-- The report of a node that cannot be read. -/
def badNode (index : Nat) (v : Value α) (f : Fault) : Violation :=
  let id := givenId v
  let shown := if id.truthy then id.plain else toString index
  { code :=
      if occursIn unknownTypeMark.toList f.message.toList then .unsupportedNodeType else .badNode
    message := "Node '" ++ shown ++ "': " ++ f.message
    nodeId := if id.isNull then none else some id.plain }

def badEdge (index : Nat) (f : Fault) : Violation :=
  { code := .badEdge, message := "Edge #" ++ toString index ++ ": " ++ f.message }

/-- What was read, and the reports of what could not be. -/
structure Reading (β : Type) where
  items : List β := []
  violations : List Violation := []

/-- Read all values, numbered from `i` on, and collect the reports of the bad ones. -/
def readAll {β : Type} (read : Nat → Value α → Except Fault β)
    (report : Nat → Value α → Fault → Except Fault Violation) :
    Nat → List (Value α) → Except Fault (Reading β)
  | _, [] => .ok {}
  | i, v :: rest =>
    match read i v with
    | .ok x => do
      let r ← readAll read report (i + 1) rest
      return { r with items := x :: r.items }
    | .error f =>
      if collected f then do
        let violation ← report i v f
        let r ← readAll read report (i + 1) rest
        return { r with violations := violation :: r.violations }
      else .error f

def readGroup (v : Value α) : Except Fault (Group α) := do
  let ps ← v.members "get"
  let id ← (fieldOr ps "id" (.text "")).toText
  let name ← (fieldOr ps "name" (.text "")).toText
  let nodeIds ← (fieldOr ps "nodeIds" (.list [])).partsOrNone
  return { id, name, nodeIds, color := field ps "color" }

/-- A graph, or all that is wrong with its nodes and edges. The report of a node names it, so an id that
cannot be written ends the reading. -/
def read (v : Value α) : Except Fault (Graph α) := do
  let ps ← v.members "get"
  let nodeValues ← (field ps "nodes").partsOrNone
  let nodes ← readAll (fun _ => Node.read)
    (fun i v f => Value.writing [givenId v] (badNode i v f)) 0 nodeValues
  let edgeValues ← (field ps "edges").partsOrNone
  let edges ← readAll (fun i => Edge.read i) (fun i _ f => .ok (badEdge i f)) 0 edgeValues
  let groups ← (← (field ps "groups").partsOrNone).mapM readGroup
  let violations := nodes.violations ++ edges.violations
  if violations.isEmpty then return { nodes := nodes.items, edges := edges.items, groups }
  else throw (.invalidGraph violations)

end Graph

end Dungeon
