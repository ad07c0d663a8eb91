import Dungeon.Run.Plan

/-!
# The state of a run

Every node counts the edges to it that are not settled yet. An edge is settled with a fragment or,
when its source was pruned or sent nothing through the port, without one. A node is ready when all
edges to it are settled and a fragment has arrived, an early merge when the first fragment has; it
is pruned when all edges are settled and nothing has arrived. A pruned node settles the edges that
leave it before anything else is settled, so prunings nest, and a host bears only so many at once.
-/

namespace Dungeon

inductive NodeState
  | pending
  | ready
  | executing
  | done
  | failed
  | pruned
  deriving DecidableEq

def NodeState.name : NodeState → String
  | pending => "pending"
  | ready => "ready"
  | executing => "executing"
  | done => "done"
  | failed => "failed"
  | pruned => "pruned"

/-- A fragment that has arrived at a node. -/
structure Arrival (α : Type) where
  port : Nat
  edgeId : String
  source : String
  fragment : Fragment α

/-- The order of arrivals: by port, then by edge. -/
def Arrival.before {α : Type} (a b : Arrival α) : Bool :=
  a.port < b.port || (a.port == b.port && a.edgeId ≤ b.edgeId)

/-- How far a node has come. -/
structure Progress (α : Type) where
  state : NodeState := .pending
  /-- How many edges to the node are not settled. -/
  unsettled : Int
  arrivals : List (Arrival α) := []

structure Run (α : Type) where
  progress : Table String (Progress α)
  executions : Nat := 0
  /-- The pruned nodes in the order of pruning. -/
  pruned : List String := []
  /-- For each merge that takes the first path, the node whose fragment came first. -/
  winners : Table String String := {}
  draft : Draft α

namespace Run

variable {α : Type}

/-- Change how far a node has come. -/
def update (r : Run α) (id : String) (f : Progress α → Progress α) : Run α :=
  match r.progress.find? id with
  | some p => { r with progress := r.progress.insert id (f p) }
  | none => r

def setState (r : Run α) (id : String) (s : NodeState) : Run α :=
  r.update id fun p => { p with state := s }

def state? (r : Run α) (id : String) : Option NodeState := (r.progress.find? id).map Progress.state

/-- No node has run, and the roots are ready. -/
def initial [Scalar α] (p : Plan α) : Run α :=
  let start : Run α := {
    progress := ⟨p.graph.nodeIds.map fun id => (id, { unsettled := p.inDegree id })⟩
    draft := Draft.empty }
  p.roots.foldl (fun r id => r.setState id .ready) start

/-- The ready node that runs next: the one with the least id. -/
def next? (r : Run α) : Option String :=
  (sortedTexts ((r.progress.entries.filter fun e => e.2.state = .ready).map Prod.fst)).head?

/-- An edge with what it is settled with. -/
abbrev Delivery (α : Type) := Edge α × Option (Fragment α)

/-- Keep a fragment that has come along an edge. -/
def arrive (r : Run α) (p : Plan α) (e : Edge α) (f : Fragment α) : Except Fault (Run α) :=
  match p.inputIndex? e.target with
  | some port =>
    .ok (r.update e.target.node fun g =>
      { g with arrivals := g.arrivals ++ [⟨port, e.id, e.source.node, f⟩] })
  | none =>
    .error (.missingKey
      ("(" ++ Text.quote e.target.node ++ ", " ++ Text.quote e.target.port ++ ")"))

/-- A node starts although edges to it may not be settled. -/
def fire (r : Run α) (p : Plan α) (e : Edge α) : Run α :=
  let id := e.target.node
  let winners :=
    if p.strategy? id = some .first then r.winners.insert id e.source.node else r.winners
  { r.setState id .ready with winners }

/-- Nothing arrives at a node any more; gives the deliveries that follow. -/
def prune (r : Run α) (p : Plan α) (id : String) : Run α × List (Delivery α) :=
  ({ r.setState id .pruned with pruned := r.pruned ++ [id] },
    (p.outgoing id).map fun e => (e, none))

/-- A node to which no edge is left unsettled is ready or pruned. -/
def complete (r : Run α) (p : Plan α) (id : String) : Run α × List (Delivery α) :=
  match r.progress.find? id with
  | some g =>
    if g.unsettled = 0 then
      if g.arrivals.isEmpty then r.prune p id else (r.setState id .ready, [])
    else (r, [])
  | none => (r, [])

/-- Settle one edge. What comes to a node that no longer waits is dropped. -/
def settle (r : Run α) (p : Plan α) (d : Delivery α) :
    Except Fault (Run α × List (Delivery α)) := do
  let (e, f) := d
  let id := e.target.node
  let r := r.update id fun g => { g with unsettled := g.unsettled - 1 }
  if r.state? id ≠ some .pending then return (r, [])
  match f with
  | none => return r.complete p id
  | some f =>
    let r ← r.arrive p e f
    if p.firesEarly id then return (r.fire p e, []) else return r.complete p id

/-- Settle edges one after the other. When this prunes a node, `cascade` settles what follows from it
before the next edge is settled. -/
def settleEach (p : Plan α) (cascade : List (Delivery α) → Run α → Except Fault (Run α)) :
    List (Delivery α) → Run α → Except Fault (Run α)
  | [], r => .ok r
  | d :: rest, r => do
    let (next, more) ← r.settle p d
    if r.pruned.length < next.pruned.length then
      settleEach p cascade rest (← cascade more next)
    else settleEach p cascade rest next

/-- Settle edges and all that follows from them. A node can be pruned while another one is, but no more
than `nesting` of them at once. -/
def settleAll (p : Plan α) : Nat → List (Delivery α) → Run α → Except Fault (Run α)
  | 0 => settleEach p fun _ _ => .error .tooDeep
  | nesting + 1 => settleEach p (settleAll p nesting)

end Run

end Dungeon
