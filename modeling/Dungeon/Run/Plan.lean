import Dungeon.Graph.Validation
import Dungeon.Work.Node

/-!
# Plans

A graph made ready for runs. A plan says for each node which edges leave it and in which order, how
many edges lead to it, and what a merge waits for. Where ids are given twice, the first node does
the work, and the last one decides ports and strategies.
-/

namespace Dungeon

structure Plan (α : Type) where
  graph : Graph α
  /-- How often another place is tried for a room. -/
  retries : Value α

namespace Plan

variable {α : Type}

/-- The index of the last port with an id. -/
def lastIndex? (ports : List (Port α)) (id : String) : Option Nat :=
  (ports.zipIdx.reverse.find? fun p => p.1.id == id).map Prod.snd

/-- The index of a port among the ports of its node. -/
def indexOf? (p : Plan α) (ports : Node α → List (Port α)) (ref : PortRef) : Option Nat :=
  p.graph.nodes.reverse.findSome? fun n =>
    if n.id = ref.node then lastIndex? (ports n) ref.port else none

def inputIndex? (p : Plan α) (ref : PortRef) : Option Nat := p.indexOf? Node.inputs ref

/-- The place of an edge among those that leave its node: by output port, then by id. -/
def leavesBefore (p : Plan α) (e f : Edge α) : Bool :=
  let i := (p.indexOf? Node.outputs e.source).getD 0
  let j := (p.indexOf? Node.outputs f.source).getD 0
  i < j || (i == j && e.id ≤ f.id)

/-- The edges that leave a node, in the order in which they are settled. -/
def outgoing (p : Plan α) (id : String) : List (Edge α) :=
  sortBy p.leavesBefore (p.graph.edges.filter fun e => e.source.node == id)

/-- How many edges lead to a node. -/
def inDegree (p : Plan α) (id : String) : Nat := p.graph.edges.countP (·.target.node == id)

/-- What a merge waits for. -/
def strategy? (p : Plan α) (id : String) : Option MergeStrategy :=
  p.graph.nodes.reverse.findSome? fun n =>
    match n.data with
    | .merge d => if n.id = id then some (d.strategy.getD .all) else none
    | _ => none

/-- Does the node run as soon as one fragment has arrived? -/
def firesEarly (p : Plan α) (id : String) : Bool :=
  match p.strategy? id with
  | some .any => true
  | some .first => true
  | _ => false

/-- The nodes that no edge leads to. -/
def roots (p : Plan α) : List String :=
  sortedTexts (p.graph.nodeIds.filter fun id => p.inDegree id == 0)

/-- The seed that a run draws from. A plan without roots runs no node and needs none. -/
def seed [Scalar α] (p : Plan α) (given : Value α) : Except Fault Int :=
  if p.roots.isEmpty then .ok 0 else given.toWhole

/-- The node that an edge names must be there. -/
def checkNode (g : Graph α) (id : String) : Except Fault Unit :=
  if (g.node? id).isSome then .ok () else .error (.missingKey (Text.quote id))

def checkEdges (g : Graph α) : List (Edge α) → Except Fault Unit
  | [] => .ok ()
  | e :: rest => do
    checkNode g e.source.node
    checkNode g e.target.node
    checkEdges g rest

/-- The plan of a graph whose edges lead from nodes to nodes. -/
def ofGraph (g : Graph α) (retries : Value α) : Except Fault (Plan α) := do
  checkEdges g g.edges
  return ⟨g, retries⟩

/-- The plan of a valid graph. -/
def ofValid (g : Graph α) (retries : Value α) : Except Fault (Plan α) := do
  let _ ← g.ensureValid
  ofGraph g retries

end Plan

end Dungeon
