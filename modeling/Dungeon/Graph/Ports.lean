import Dungeon.Conversion
import Dungeon.Graph.Basic

/-!
# Ports of fresh nodes

The ports a node has when it is placed in the editor. A node that selects among paths has an output
for every weight, and at least two.
-/

namespace Dungeon

variable {α : Type}

def Port.input (id label : String) (dataType : String) : Port α :=
  { id, side := .input, dataType, label := .text label }

def Port.output (id label : String) (dataType : String) : Port α :=
  { id, side := .output, dataType, label := .text label }

/-- The numbered ports that stand for paths, from 1 up. -/
def pathPorts (make : String → String → String → Port α) (stem : String) (count : Nat) :
    List (Port α) :=
  (List.range' 1 count).map fun i => make (stem ++ toString i) ("Path " ++ toString i) "room"

/-- How many paths leave a node with the given weights. -/
def pathCount [Scalar α] (weights : Value α) : Except Fault Nat :=
  if weights.truthy then return Nat.max 2 (← weights.length) else return 2

structure PortLists (α : Type) where
  inputs : List (Port α)
  outputs : List (Port α)

/-- The ports of a fresh node of a kind whose number of paths is known. -/
def NodeKind.ports (paths : Nat) : NodeKind → PortLists α
  | start => ⟨[], [.output "out" "Out" "room"]⟩
  | output => ⟨[.input "in" "In" "room"], []⟩
  | room | roomChain => ⟨[.input "in" "In" "room"], [.output "out" "Out" "room"]⟩
  | branch | randomSelect => ⟨[.input "in" "In" "room"], pathPorts .output "out" paths⟩
  | merge => ⟨pathPorts .input "in" 2, [.output "out" "Out" "room"]⟩
  | spawnPoint | lootDrop | encounter | prop => ⟨[.input "room" "Room" "room"], []⟩
  | condition =>
    ⟨[.input "in" "In" anyType], [.output "true" "True" anyType, .output "false" "False" anyType]⟩
  | sequence | distribution => ⟨[.input "in" "In" anyType], [.output "out" "Out" anyType]⟩

/-- The ports of a fresh node with given settings. -/
def NodeData.ports [Scalar α] (d : NodeData α) : Except Fault (PortLists α) :=
  match d with
  | branch b => return NodeKind.branch.ports (← pathCount b.weights)
  | randomSelect s => return NodeKind.randomSelect.ports (← pathCount s.weights)
  | d => .ok (d.kind.ports 2)

/-- The ports of a fresh node of a kind with any settings. A node that selects counts the weights of
branches and of random selections alike, and no other settings are looked at. -/
def NodeKind.portsWith [Scalar α] (kind : NodeKind) (d : NodeData α) :
    Except Fault (PortLists α) :=
  if kind = .branch ∨ kind = .randomSelect then
    match d with
    | .branch b => return kind.ports (← pathCount b.weights)
    | .randomSelect s => return kind.ports (← pathCount s.weights)
    | _ => .ok (kind.ports 2)
  else .ok (kind.ports 2)

/-- Settings of the node's own kind. -/
theorem NodeData.portsWith_kind [Scalar α] (d : NodeData α) : d.kind.portsWith d = d.ports := by
  cases d <;> rfl

@[simp] theorem length_pathPorts (make : String → String → String → Port α) (stem : String)
    (count : Nat) : (pathPorts make stem count).length = count := by
  simp [pathPorts]

end Dungeon
