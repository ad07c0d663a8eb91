import Dungeon.Run.State

/-!
# Runs

A run takes the ready nodes one by one, always the one with the least id, and settles the edges that
leave them. The first node that fails ends the run. Each node draws from a stream of its own.
-/

namespace Dungeon

variable {σ α : Type} [Scalar α] [Source σ α]

/-- What a run reports besides its layout. -/
structure RunData where
  executions : Nat := 0
  retries : Nat := 0
  pruned : List String := []
  winners : Table String String := {}

def RunData.toValue (m : RunData) : Value α :=
  .record [("nodeExecutions", .int m.executions), ("retryCount", .int m.retries),
    ("prunedNodes", .texts m.pruned),
    ("mergeWinners", .record (m.winners.entries.map fun p => (p.1, .text p.2)))]

structure RunReport (α : Type) where
  layout : Layout α
  data : RunData
  warnings : List String
  states : Table String NodeState

namespace Run

/-- What the machine under a run can bear: how many prunings go on at once, and which ids have no
bytes to make a seed of, each with the words in which it is refused. -/
structure Host where
  nesting : Nat := 490
  refusal : String → Option String := fun _ => none

/-- What a run is given: the plan, the parameters, the stream of each node and the host. -/
structure Input (σ α : Type) where
  plan : Plan α
  parameters : Bindings α
  stream : String → σ
  host : Host := {}

omit [Scalar α] in
/-- The fragments that have arrived at a node, in the order of its ports. -/
def incoming (r : Run α) (id : String) : List (Fragment α) :=
  match r.progress.find? id with
  | some g => (sortBy Arrival.before g.arrivals).map Arrival.fragment
  | none => []

/-- A fault inside a node, as the failure of the node. A key that cannot be written cannot be
reported as missing. -/
def failure (id : String) : Fault → Fault
  | .unwritableKey => .unwritable
  | f => if f.kind = .node then f else .node id f.described

/-- Let a node work. Its stream is made first, and a refused id is no failure of the node. -/
def perform (input : Input σ α) (r : Run α) (n : Node α) : Except Fault (Run α × Outcome α) :=
  match input.host.refusal n.id with
  | some text => .error (.unencodable text)
  | none =>
    let job : Job α := { node := n, parameters := input.parameters, retries := input.plan.retries }
    match job.perform (r.incoming n.id) { draft := r.draft, stream := input.stream n.id } with
    | .ok out site =>
      .ok ({ r.setState n.id .done with draft := site.draft, executions := r.executions + 1 }, out)
    | .error f _ => .error (failure n.id f)

omit [Scalar α] in
/-- What the edges that leave a node are settled with. -/
def deliveries (p : Plan α) (id : String) (out : Outcome α) : List (Delivery α) :=
  (p.outgoing id).map fun e => (e, (out.find? e.source.port).join)

/-- Run a node and settle the edges that leave it. -/
def advance (input : Input σ α) (r : Run α) (id : String) : Except Fault (Run α) :=
  match input.plan.graph.node? id with
  | none => .ok r
  | some n => do
    let (r, out) ← perform input (r.setState id .executing) n
    settleAll input.plan input.host.nesting (deliveries input.plan id out) r

/-- Run ready nodes until none is left; no node runs twice, so `limit` can be their number. -/
def loop (input : Input σ α) : Nat → Run α → Except Fault (Run α)
  | 0, r => .ok r
  | limit + 1, r =>
    match r.next? with
    | none => .ok r
    | some id => do loop input limit (← advance input r id)

def toReport (r : Run α) : RunReport α :=
  { layout := r.draft.toLayout
    data := { executions := r.executions, pruned := sortedTexts r.pruned, winners := r.winners }
    warnings := r.draft.warnings
    states := r.progress.map Progress.state }

def execute (input : Input σ α) : Except Fault (RunReport α) := do
  let r ← loop input input.plan.graph.nodeIds.length (initial input.plan)
  return r.toReport

end Run

end Dungeon
