import Dungeon.Graph.NodeData

/-!
# Graphs

A generator graph is a list of nodes and a list of edges from output ports to input ports. Groups,
labels and positions are the editor's; a run never reads them.
-/

namespace Dungeon

inductive PortSide
  | input
  | output
  deriving DecidableEq

def PortSide.name : PortSide → String
  | input => "input"
  | output => "output"

/-- The data type that goes with every other. -/
def anyType : String := "any"

structure Port (α : Type) where
  id : String
  side : PortSide
  dataType : String := "room"
  label : Value α := .null

/-- May an edge join the two ports? -/
def Port.accepts {α : Type} (p q : Port α) : Bool :=
  p.dataType == anyType || q.dataType == anyType || p.dataType == q.dataType

/-- A port of a node, by ids. -/
structure PortRef where
  node : String
  port : String
  deriving DecidableEq

structure Edge (α : Type) where
  id : String
  source : PortRef
  target : PortRef
  label : Value α := .null

structure Position (α : Type) where
  x : Number α
  y : Number α

structure Node (α : Type) where
  id : String
  data : NodeData α
  inputs : List (Port α)
  outputs : List (Port α)
  position : Position α

namespace Node

variable {α : Type}

def kind (n : Node α) : NodeKind := n.data.kind

def input? (n : Node α) (port : String) : Option (Port α) := n.inputs.find? (·.id == port)

def output? (n : Node α) (port : String) : Option (Port α) := n.outputs.find? (·.id == port)

end Node

structure Group (α : Type) where
  id : String
  name : String
  nodeIds : List (Value α)
  color : Value α

structure Graph (α : Type) where
  nodes : List (Node α) := []
  edges : List (Edge α) := []
  groups : List (Group α) := []

namespace Graph

variable {α : Type}

/-- The first node with the id. -/
def node? (g : Graph α) (id : String) : Option (Node α) := g.nodes.find? (·.id == id)

/-- The different node ids, in the order of first occurrences. -/
def nodeIds (g : Graph α) : List String := (g.nodes.map Node.id).eraseDups

def ofKind (g : Graph α) (k : NodeKind) : List (Node α) := g.nodes.filter (·.kind == k)

end Graph

end Dungeon
