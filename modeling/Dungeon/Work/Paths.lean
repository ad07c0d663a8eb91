import Dungeon.Work.Basic

/-!
# Nodes that direct the flow

Branches and selections send fragments on along paths, merges join them, sequences pass them on,
conditions compare a parameter, and distributions set a variable.
-/

namespace Dungeon

variable {σ α : Type} [Scalar α] [Source σ α]

namespace Job

/-- How far apart the paths of a branch are. -/
def pathOffset : α := 15.0

/-- The number of a path, as a multiple of the offset. -/
def lateralOf (i : Nat) : α := pathOffset * Scalar.ofNat i

omit [Source σ α] in
/-- The weights of the paths out of a node, scaled to sum to one. -/
def pathWeights (j : Job α) (weights : Value α) : Work σ α (List α) := do
  let given ← Work.lift weights.length
  let paths := j.node.outputs.length
  if given ≠ paths then
    j.fail (toString given ++ " weights configured for " ++ toString paths ++ " output paths")
  j.blame (Work.lift (do normalised (← weights.parts)))

omit [Source σ α] in
/-- The fragment of each path of a branch, by port. -/
def paths (j : Job α) (f : Fragment α) (weights : List α) : List (String × Fragment α) :=
  (j.node.outputs.zip weights).zipIdx.map fun ((p, w), i) =>
    (p.id, (f.heading (.ofPath i) (lateralOf i)).follow { nodeId := j.node.id, index := i, weight := w })

/-- The id of the output port with an index. -/
def portId (j : Job α) (i : Nat) : String := (j.node.outputs[i]?.map Port.id).getD ""

def branch (j : Job α) (d : BranchData α) (incoming : List (Fragment α)) :
    Work σ α (Outcome α) := do
  let f ← j.single incoming
  let weights ← j.pathWeights d.weights
  let all := Table.ofList (j.paths f weights)
  if d.probabilistic.truthy then
    let chosen := j.portId (← Work.draw (Draw.weightedIndex weights))
    return ⟨all.entries.map fun (id, f) => (id, if id = chosen then some f else none)⟩
  else return all.map some

omit [Source σ α] in
def merge (j : Job α) (incoming : List (Fragment α)) : Work σ α (Outcome α) := do
  return j.everywhere (← j.single incoming)

omit [Source σ α] in
def sequence (j : Job α) (incoming : List (Fragment α)) : Work σ α (Outcome α) := do
  return j.everywhere (← j.single incoming)

def randomSelect (j : Job α) (d : RandomSelectData α) (incoming : List (Fragment α)) :
    Work σ α (Outcome α) := do
  let f ← j.single incoming
  let equal : Value α := .tuple (j.node.outputs.map fun _ => .real 1.0)
  let weights ← j.pathWeights (if d.weights.truthy then d.weights else equal)
  let i ← Work.draw (Draw.weightedIndex weights)
  let chosen : PathStep α := { nodeId := j.node.id, index := i, weight := weights[i]?.getD 0.0 }
  return j.only (f.follow chosen) (j.portId i)

/-- Does the comparison hold? An operator that is not one of the known ones is a missing key. -/
def holds (operator actual given : Value α) : Except Fault Bool := do
  match ← operator.key with
  | .text "eq" => return Value.eq actual given
  | .text "ne" => return !Value.eq actual given
  | .text "gt" => Value.compare .gt actual given
  | .text "ge" => Value.compare .ge actual given
  | .text "lt" => Value.compare .lt actual given
  | .text "le" => Value.compare .le actual given
  | .text "truthy" => return actual.truthy
  | other => throw (if other.writable then .missingKey other.quoted else .unwritableKey)

omit [Source σ α] in
def condition (j : Job α) (d : ConditionData α) (incoming : List (Fragment α)) :
    Work σ α (Outcome α) := do
  let f ← j.single incoming
  match j.parameters.find? (← Work.lift d.parameter.key) with
  | none => j.failOver [d.parameter] ("parameter '" ++ d.parameter.plain ++ "' is not bound")
  | some actual =>
    match holds d.operator actual d.value with
    | .ok b => return j.only f (if b then "true" else "false")
    | .error e =>
      if e.kind = .type then
        j.failOver [actual, d.operator, d.value]
          ("cannot compare " ++ actual.quoted ++ " " ++ d.operator.plain ++ " " ++ d.value.quoted)
      else throw e

def distribution (j : Job α) (d : DistributionData α) (incoming : List (Fragment α)) :
    Work σ α (Outcome α) := do
  let f ← j.single incoming
  if ← Work.lift (Value.compare .gt d.low d.high) then
    j.failOver [d.low, d.high] ("min " ++ d.low.plain ++ " exceeds max " ++ d.high.plain)
  let unit ← j.blame (Work.draw (Draw.distribution d.distribution d.power d.rate))
  let x ← Work.lift (d.low.between d.high unit)
  return j.everywhere (f.withVariable (← Work.lift d.variableName.key) (.real x))

end Job

end Dungeon
