import Dungeon.Conversion
import Dungeon.Graph.Basic
import Dungeon.Search
import Dungeon.Sorting

/-!
# Validation

The checks of a graph before it runs, in a fixed order: edges lead from output ports to input
ports, port types go together, an input port takes one edge and a merge at least two, nothing runs
in circles, there is one start from which every node is reached, and there is an output. All
violations are collected. The checks after the first look at the edges that passed it.
-/

namespace Dungeon

variable {α : Type}

namespace PortRef

/-- The order by node, then by port. -/
def le (a b : PortRef) : Bool := a.node < b.node || (a.node == b.node && a.port ≤ b.port)

end PortRef

namespace Graph

/-- The entries of a table of counts that come more than once, sorted by key. -/
def repeated {κ : Type} (le : κ → κ → Bool) (counts : Table κ Nat) : List (κ × Nat) :=
  sortBy (fun p q => le p.1 q.1) (counts.entries.filter fun p => 1 < p.2)

def duplicateNodes (g : Graph α) : List Violation :=
  (repeated (· ≤ ·) (Table.counts (g.nodes.map Node.id))).map fun (id, n) =>
    { code := .duplicateNode, message := "Node id '" ++ id ++ "' is used " ++ toString n ++ " times"
      nodeId := some id }

def duplicateEdges (g : Graph α) : List Violation :=
  (repeated (· ≤ ·) (Table.counts (g.edges.map Edge.id))).map fun (id, n) =>
    { code := .duplicateEdge, message := "Edge id '" ++ id ++ "' is used " ++ toString n ++ " times"
      edgeId := some id }

/-- What is wrong with the start of an edge. -/
def sourceProblem (g : Graph α) (e : Edge α) : Option Violation :=
  match g.node? e.source.node with
  | none => some {
      code := .missingNode
      message := "Edge '" ++ e.id ++ "' starts at unknown node '" ++ e.source.node ++ "'"
      edgeId := some e.id }
  | some n =>
    if (n.output? e.source.port).isSome then none
    else
      let what := if (n.input? e.source.port).isSome then "an input port" else "unknown"
      some {
        code := .missingPort
        message := "Edge '" ++ e.id ++ "' source port '" ++ e.source.port ++ "' on '" ++ n.id ++
          "' is " ++ what ++ ", expected an output port"
        nodeId := some n.id, edgeId := some e.id }

/-- What is wrong with the end of an edge. -/
def targetProblem (g : Graph α) (e : Edge α) : Option Violation :=
  match g.node? e.target.node with
  | none => some {
      code := .missingNode
      message := "Edge '" ++ e.id ++ "' ends at unknown node '" ++ e.target.node ++ "'"
      edgeId := some e.id }
  | some n =>
    if (n.input? e.target.port).isSome then none
    else
      let what := if (n.output? e.target.port).isSome then "an output port" else "unknown"
      some {
        code := .missingPort
        message := "Edge '" ++ e.id ++ "' target port '" ++ e.target.port ++ "' on '" ++ n.id ++
          "' is " ++ what ++ ", expected an input port"
        nodeId := some n.id, edgeId := some e.id }

def danglingEdges (g : Graph α) : List Violation :=
  g.edges.flatMap fun e => (g.sourceProblem e).toList ++ (g.targetProblem e).toList

/-- The edges from an output port to an input port. -/
def resolved (g : Graph α) : List (Edge α) :=
  g.edges.filter fun e => (g.sourceProblem e).isNone && (g.targetProblem e).isNone

/-- The ports that an edge joins. -/
def joined? (g : Graph α) (e : Edge α) : Option (Port α × Port α) := do
  let source ← g.node? e.source.node
  let target ← g.node? e.target.node
  let p ← source.output? e.source.port
  let q ← target.input? e.target.port
  return (p, q)

def typeProblem (g : Graph α) (e : Edge α) : Option Violation :=
  match g.joined? e with
  | none => none
  | some (p, q) =>
    if p.accepts q then none
    else some {
      code := .portTypeMismatch
      message := "Edge '" ++ e.id ++ "' connects '" ++ p.dataType ++ "' output to '" ++
        q.dataType ++ "' input"
      edgeId := some e.id }

def overloadedPorts (edges : List (Edge α)) : List Violation :=
  (repeated PortRef.le (Table.counts (edges.map Edge.target))).map fun (ref, n) =>
    { code := .portOverloaded
      message := "Input port '" ++ ref.port ++ "' on '" ++ ref.node ++ "' has " ++ toString n ++
        " incoming edges; at most one is allowed"
      nodeId := some ref.node }

/-- How many edges lead to a node. -/
def fanIn (edges : List (Edge α)) (id : String) : Nat := edges.countP (·.target.node == id)

def underfedMerges (g : Graph α) (edges : List (Edge α)) : List Violation :=
  ((g.ofKind .merge).filter fun n => fanIn edges n.id < 2).map fun n =>
    { code := .mergeUnderfed
      message := "Merge '" ++ n.id ++ "' has " ++ toString (fanIn edges n.id) ++
        " incoming edge(s); a merge needs at least two"
      nodeId := some n.id }

/-- Is there an edge to `id` from one of the given nodes? -/
def fedBy (edges : List (Edge α)) (ids : List String) (id : String) : Bool :=
  edges.any fun e => e.target.node == id && ids.contains e.source.node

/-- The nodes that some node of the list leads to. -/
def fed (edges : List (Edge α)) (ids : List String) : List String := ids.filter (fedBy edges ids)

/-- Take away nodes that no remaining node leads to, until none can be taken; as many rounds as
there are nodes are enough. -/
def peel (edges : List (Edge α)) : Nat → List String → List String
  | 0, ids => ids
  | rounds + 1, ids =>
    if (fed edges ids).length < ids.length then peel edges rounds (fed edges ids) else ids

/-- The nodes on a cycle or behind one, sorted. -/
def stuck (g : Graph α) (edges : List (Edge α)) : List String :=
  sortedTexts (peel edges g.nodeIds.length g.nodeIds)

def cycles (g : Graph α) (edges : List (Edge α)) : List Violation :=
  match g.stuck edges with
  | [] => []
  | id :: rest => [{
      code := .cycle
      message := "Graph contains a cycle through: " ++ Value.joined ", " (id :: rest)
      nodeId := some id }]

/-- The nodes that the edges out of each node lead to. -/
def successors (edges : List (Edge α)) : Adjacency :=
  edges.foldl (fun adj e => adj.link e.source.node e.target.node) Table.empty

def reachable (edges : List (Edge α)) (start : String) : List String :=
  (successors edges).reachable start

def startProblems (g : Graph α) (edges : List (Edge α)) (start : Node α) : List Violation :=
  let seen := reachable edges start.id
  (if edges.any (·.target.node == start.id) then
    [{ code := .startHasInputs
       message := "Start node '" ++ start.id ++ "' must not have incoming edges"
       nodeId := some start.id }]
  else []) ++
    ((g.nodes.filter fun n => !seen.contains n.id && n.kind != .output).map fun n =>
      { code := .unreachable
        message := "Node '" ++ n.id ++ "' (" ++ n.kind.name ++ ") is not reachable from start"
        nodeId := some n.id })

def unreachedOutputs (g : Graph α) (edges : List (Edge α)) (start : Node α) : List Violation :=
  let seen := reachable edges start.id
  ((g.ofKind .output).filter fun n => !seen.contains n.id).map fun n =>
    { code := .outputUnreachable
      message := "Output node '" ++ n.id ++ "' is not reachable from start"
      nodeId := some n.id }

def startAndOutputs (g : Graph α) (edges : List (Edge α)) : List Violation :=
  let noOutput : List Violation :=
    if (g.ofKind .output).isEmpty then
      [{ code := .noOutput, message := "Graph has no output node" }]
    else []
  match g.ofKind .start with
  | [start] => g.startProblems edges start ++ noOutput ++ g.unreachedOutputs edges start
  | starts =>
    { code := .startCount
      message := "Graph must have exactly one start node, found " ++ toString starts.length } ::
      noOutput

/-- The errors of a graph. -/
def errors (g : Graph α) : List Violation :=
  g.duplicateNodes ++ g.duplicateEdges ++ g.danglingEdges ++
    g.resolved.filterMap g.typeProblem ++
    overloadedPorts g.resolved ++ g.underfedMerges g.resolved ++
    g.cycles g.resolved ++ g.startAndOutputs g.resolved

/-- The ids of a group that no node has. An id that is no key is a fault. -/
def missingIds (known : List String) : List (Value α) → Except Fault (List (Value α))
  | [] => .ok []
  | .text s :: rest => do
    let missing ← missingIds known rest
    return if known.contains s then missing else .text s :: missing
  | v :: rest => do
    let v ← v.key
    let missing ← missingIds known rest
    return v :: missing

/-- The texts of a list that must hold nothing else, numbered from `i` on. -/
def textsFrom : Nat → List (Value α) → Except Fault (List String)
  | _, [] => .ok []
  | i, .text s :: rest => do
    let rest ← textsFrom (i + 1) rest
    return s :: rest
  | i, v :: _ => .error (.notJoinable i v.typeName)

def groupWarning (g : Graph α) (group : Group α) : Except Fault (List Violation) := do
  let missing ← missingIds (g.nodes.map Node.id) group.nodeIds
  if missing.isEmpty then return []
  let texts ← textsFrom 0 missing
  return [{
    code := .groupMissingNodes
    message := "Group '" ++ group.name ++ "' references unknown nodes: " ++
      Value.joined ", " texts }]

def danglingOutputs (g : Graph α) (edges : List (Edge α)) : List Violation :=
  g.nodes.flatMap fun n =>
    (n.outputs.filter fun p => !edges.any (·.source == ⟨n.id, p.id⟩)).map fun p =>
      { code := .danglingOutput
        message := "Output port '" ++ p.id ++ "' on '" ++ n.id ++ "' is not connected"
        nodeId := some n.id }

def warnings (g : Graph α) : Except Fault (List Violation) := do
  let groups ← g.groups.mapM g.groupWarning
  return groups.flatten ++ g.danglingOutputs g.resolved

/-- What validation found. -/
structure Report where
  errors : List Violation
  warnings : List Violation

def Report.valid (r : Report) : Bool := r.errors.isEmpty

def validate (g : Graph α) : Except Fault Report := do
  return ⟨g.errors, ← g.warnings⟩

def Report.toValue (r : Report) : Value α :=
  .record [("valid", .bool r.valid), ("errors", .list (r.errors.map Violation.toValue)),
    ("warnings", .list (r.warnings.map Violation.toValue))]

/-- The report of a graph without errors; a graph with errors is a fault. -/
def ensureValid (g : Graph α) : Except Fault Report := do
  let r ← g.validate
  if r.valid then return r else throw (.invalidGraph r.errors)

end Graph

end Dungeon
