import Dungeon.Draft
import Dungeon.Graph.Basic
import Dungeon.Parameter
import Dungeon.Placement
import Dungeon.Table

/-!
# Work

What a node does in a run: it draws from its own stream, writes to the draft, and says for each of
its output ports which fragment leaves there, or that nothing does. When it fails, what it drew and
wrote before stays.
-/

namespace Dungeon

/-- Where a node works: the draft of the run and the node's own stream. -/
structure Site (σ α : Type) where
  draft : Draft α
  stream : σ

abbrev Work (σ α β : Type) := EStateM Fault (Site σ α) β

/-- The setting as it is meant; any other value has no member `member`. -/
def Setting.require {β α : Type} (s : Setting β α) (member : String) : Except Fault β :=
  match s with
  | .proper x => .ok x
  | .foreign v => .error (.noMember v.typeName member)

/-- What a node works with. -/
structure Job (α : Type) where
  node : Node α
  parameters : Bindings α
  /-- How often another place is tried for a room. -/
  retries : Value α

/-- What leaves each output port; nothing leaves a port without a fragment. -/
abbrev Outcome (α : Type) := Table String (Option (Fragment α))

/-- What is said of the bounds of a range. They are written when they are not in order. -/
def CountRange.told {β : Type} (r : CountRange) (x : β) : Except Fault β :=
  if r.high < r.low then Value.writing [(.int r.low : Value Unit), .int r.high] x else .ok x

variable {σ α β : Type}

namespace Work

def lift (x : Except Fault β) : Work σ α β :=
  match x with
  | .ok v => pure v
  | .error f => throw f

def draw (d : Draw σ β) : Work σ α β := fun s =>
  match d s.stream with
  | .ok v stream => .ok v { s with stream }
  | .error f stream => .error f { s with stream }

def draft : Work σ α (Draft α) := fun s => .ok s.draft s

def write (f : Draft α → Draft α) : Work σ α Unit := fun s => .ok () { s with draft := f s.draft }

/-- A write that may fail and then changes nothing. -/
def tryWrite (f : Draft α → Except Fault (Draft α)) : Work σ α Unit := fun s =>
  match f s.draft with
  | .ok draft => .ok () { s with draft }
  | .error e => .error e s

def boundsOf (roomId : String) : Work σ α (Rect α) := do lift ((← draft).boundsOf roomId)

end Work

namespace Job

/-- The node cannot do what it is set to do. -/
def fail (j : Job α) (reason : String) : Work σ α β := throw (.node j.node.id reason)

/-- The node cannot do what it is set to do, for a reason that quotes these values. -/
def failOver (j : Job α) (vs : List (Value α)) (reason : String) : Work σ α β :=
  throw (.quoting vs (.node j.node.id reason))

/-- Report a bad value as the node's own failure. -/
def blame (j : Job α) (work : Work σ α β) : Work σ α β := fun s =>
  match work s with
  | .ok v s => .ok v s
  | .error f s => .error (if f.kind = .value then .node j.node.id f.message else f) s

/-- Several problems as one failure; none is no failure. -/
def failWith (j : Job α) (problems : List String) : Work σ α Unit :=
  if problems.isEmpty then pure () else j.fail (Value.joined "; " problems)

/-- The same fragment leaves every port. -/
def everywhere (j : Job α) (f : Fragment α) : Outcome α :=
  Table.ofList (j.node.outputs.map fun p => (p.id, some f))

/-- The fragment leaves the chosen port alone. -/
def only (j : Job α) (f : Fragment α) (chosen : String) : Outcome α :=
  Table.ofList (j.node.outputs.map fun p => (p.id, if p.id = chosen then some f else none))

variable [Scalar α]

/-- The fragments that arrived, as one. -/
def single (j : Job α) (incoming : List (Fragment α)) : Work σ α (Fragment α) :=
  if incoming.isEmpty then j.fail "no upstream fragment arrived"
  else Work.lift (Fragment.merge incoming)

/-- The room that content is put into. -/
def anchor (j : Job α) (f : Fragment α) : Work σ α String := do
  let d ← Work.draft
  match f.anchor.filter d.hasRoom with
  | some id => return id
  | none => j.fail (j.node.kind.name ++ " node has no room to attach to")

/-- A number from a range of the node's settings. -/
def count [Source σ α] (j : Job α) (s : Setting CountRange α) (name : String) :
    Work σ α Nat := do
  let r ← Work.lift (s.require "problems")
  j.failWith (← Work.lift (r.told (r.problems name)))
  let n ← Work.draw (Draw.integer r.low r.high)
  return n.toNat

end Job

end Dungeon
