import Dungeon.Graph.Ports
import Dungeon.Table

/-!
# Blueprints

A graph under construction. New nodes get the ports of their settings, edges between unnamed ports
take the next free ones, and a merge grows an input for every further edge.
-/

namespace Dungeon

structure Blueprint (α : Type) where
  nodes : Table String (Node α) := {}
  edges : List (Edge α) := []

namespace Blueprint

variable {α : Type}

/-- Add a node, or replace the node with its id where it stands. -/
def add (b : Blueprint α) (n : Node α) : Blueprint α := { b with nodes := b.nodes.insert n.id n }

/-- A node with the ports of its settings, unless some are given. -/
def fresh [Scalar α] (id : String) (data : NodeData α)
    (inputs outputs : Option (List (Port α))) (position : Position α) :
    Except Fault (Node α) := do
  let ports ← data.ports
  return {
    id, data, position
    inputs := inputs.getD ports.inputs
    outputs := outputs.getD ports.outputs }

def node (b : Blueprint α) (id : String) : Except Fault (Node α) :=
  match b.nodes.find? id with
  | some n => .ok n
  | none => .error (.missingKey (Text.quote id))

/-- The first output without an edge, or the last one. -/
def freeOutput (b : Blueprint α) (n : Node α) : Except Fault String :=
  match n.outputs.find? fun p => !b.edges.any (·.source == ⟨n.id, p.id⟩) with
  | some p => .ok p.id
  | none =>
    match n.outputs.getLast? with
    | some p => .ok p.id
    | none => .error (.noPorts n.id "output")

/-- The input that a merge grows next. -/
def grown (n : Node α) : Port α :=
  let i := toString (n.inputs.length + 1)
  .input ("in" ++ i) ("Path " ++ i) "room"

/-- The first input without an edge; else a new one on a merge, or the first one. -/
def freeInput (b : Blueprint α) (n : Node α) : Except Fault (String × Blueprint α) :=
  match n.inputs.find? fun p => !b.edges.any (·.target == ⟨n.id, p.id⟩) with
  | some p => .ok (p.id, b)
  | none =>
    if n.kind = .merge then
      .ok ((grown n).id, b.add { n with inputs := n.inputs ++ [grown n] })
    else
      match n.inputs.head? with
      | some p => .ok (p.id, b)
      | none => .error (.noPorts n.id "input")

/-- The id of the next edge when none is given. -/
def edgeId (b : Blueprint α) (given : Option String) : String :=
  match given with
  | some id => if id.isEmpty then "e" ++ toString (b.edges.length + 1) else id
  | none => "e" ++ toString (b.edges.length + 1)

/-- Connect two nodes, through the next free ports where none are named. -/
def connect (b : Blueprint α) (source target : String)
    (sourcePort targetPort edgeId : Option String) : Except Fault (Blueprint α) := do
  let output ← match sourcePort with
    | some p => pure p
    | none => do b.freeOutput (← b.node source)
  let (input, b') ← match targetPort with
    | some p => pure (p, b)
    | none => do b.freeInput (← b.node target)
  let e : Edge α := { id := b.edgeId edgeId, source := ⟨source, output⟩, target := ⟨target, input⟩ }
  return { b' with edges := b'.edges ++ [e] }

/-- Connect each node to the next one. The edges before a failure stay. -/
def chain : List String → EStateM Fault (Blueprint α) Unit
  | a :: b :: rest => do
    match (← get).connect a b none none none with
    | .ok done =>
      set done
      chain (b :: rest)
    | .error f => throw f
  | _ => return

def build (b : Blueprint α) : Graph α := { nodes := b.nodes.values, edges := b.edges }

end Blueprint

end Dungeon
