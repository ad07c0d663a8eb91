/-!
# Violations

One structural problem of a graph, found while reading it or while checking it.
-/

namespace Dungeon

inductive Violation.Code
  | badNode
  | unsupportedNodeType
  | badEdge
  | duplicateNode
  | duplicateEdge
  | missingNode
  | missingPort
  | portTypeMismatch
  | portOverloaded
  | mergeUnderfed
  | cycle
  | startCount
  | startHasInputs
  | unreachable
  | noOutput
  | outputUnreachable
  | groupMissingNodes
  | danglingOutput
  deriving DecidableEq

def Violation.Code.text : Violation.Code → String
  | .badNode => "bad_node"
  | .unsupportedNodeType => "unsupported_node_type"
  | .badEdge => "bad_edge"
  | .duplicateNode => "duplicate_node"
  | .duplicateEdge => "duplicate_edge"
  | .missingNode => "missing_node"
  | .missingPort => "missing_port"
  | .portTypeMismatch => "port_type_mismatch"
  | .portOverloaded => "port_overloaded"
  | .mergeUnderfed => "merge_underfed"
  | .cycle => "cycle"
  | .startCount => "start_count"
  | .startHasInputs => "start_has_inputs"
  | .unreachable => "unreachable"
  | .noOutput => "no_output"
  | .outputUnreachable => "output_unreachable"
  | .groupMissingNodes => "group_missing_nodes"
  | .danglingOutput => "dangling_output"

/-- A problem, with the node or edge it is about when there is one. -/
structure Violation where
  code : Violation.Code
  message : String
  nodeId : Option String := none
  edgeId : Option String := none
  deriving DecidableEq

end Dungeon
