import Dungeon.Graph.Blueprint
import Dungeon.Graph.Reader

/-!
# Building by calls

A blueprint is built call by call: nodes are added, and connected one by one or in a row. A call may
fail, and the caller may go on with the blueprint that it leaves.
-/

namespace Dungeon.Blueprint

variable {α β : Type}

/-- A node to be added, with settings of any kind; without them it has those of a fresh node of the
kind that is named. -/
structure Addition (α : Type) [Scalar α] where
  id : String
  type : String
  data : Option (NodeData α) := none
  overrides : NodeData.Named α := []
  inputs : Option (List (Port α)) := none
  outputs : Option (List (Port α)) := none
  position : Position α := ⟨.real 0.0, .real 0.0⟩

/-- The node that is added. Settings of another kind decide its ports like its own ones, but nothing
that is built or validated looks at them again: they stay behind, and the node has the settings of a
fresh one of its kind. Such a node can be connected; what it would do in a run is not said here. -/
def Addition.node [Scalar α] (a : Addition α) : Except Fault (Node α) := do
  let kind ← NodeKind.read (.text a.type : Value α)
  let data ← (a.data.getD kind.defaults).override a.overrides
  let ports ← kind.portsWith data
  return {
    id := a.id
    data := if data.kind = kind then data else kind.defaults
    inputs := a.inputs.getD ports.inputs
    outputs := a.outputs.getD ports.outputs
    position := a.position }

/-- Settings of the kind that is named make a fresh node. -/
theorem Addition.node_eq_fresh [Scalar α] {a : Addition α} {kind : NodeKind} {data : NodeData α}
    (named : NodeKind.read (.text a.type : Value α) = .ok kind)
    (replaced : (a.data.getD kind.defaults).override a.overrides = .ok data)
    (own : data.kind = kind) : a.node = fresh a.id data a.inputs a.outputs a.position := by
  subst own
  rw [node, named]
  dsimp only [bind, Except.bind]
  rw [replaced]
  dsimp only
  rw [NodeData.portsWith_kind, if_pos rfl]
  rfl

/-- An edge to be made. The ports and the id that are not given are chosen. -/
structure Wire where
  source : String
  target : String
  sourcePort : Option String := none
  targetPort : Option String := none
  edgeId : Option String := none

/-- What the blueprint gives, which stays as it is. -/
def ask (read : Blueprint α → Except Fault β) : EStateM Fault (Blueprint α) β := fun b =>
  match read b with
  | .ok v => .ok v b
  | .error f => .error f b

theorem ask_bind {γ : Type} (read : Blueprint α → Except Fault β)
    (next : β → EStateM Fault (Blueprint α) γ) (b : Blueprint α) :
    (ask read >>= next) b =
      match read b with
      | .ok v => next v b
      | .error f => .error f b := by
  simp only [bind, EStateM.bind, ask]
  cases read b <;> rfl

/-- The output port that an edge leaves through: the one that is given, or the next free one. -/
def openOutput (b : Blueprint α) (source : String) : Option String → Except Fault String
  | some p => .ok p
  | none => do b.freeOutput (← b.node source)

/-- The input port that an edge enters through, and the blueprint with this port. -/
def openInput (b : Blueprint α) (target : String) :
    Option String → Except Fault (String × Blueprint α)
  | some p => .ok (p, b)
  | none => do b.freeInput (← b.node target)

/-- Make the edge of a connection between ports. -/
def join (b : Blueprint α) (w : Wire) (output input : String) : Blueprint α :=
  { b with edges := b.edges ++ [
    { id := b.edgeId w.edgeId, source := ⟨w.source, output⟩, target := ⟨w.target, input⟩ }] }

/-- Connect two nodes: the output comes first, then the input, which may have to be grown, and then
the edge. -/
def link (w : Wire) : EStateM Fault (Blueprint α) Unit := do
  let output ← ask fun b => b.openOutput w.source w.sourcePort
  let (input, grown) ← ask fun b => b.openInput w.target w.targetPort
  set grown
  modify fun b => b.join w output input

/-- Growing an input makes no edge. -/
theorem edges_of_freeInput {b grown : Blueprint α} {n : Node α} {p : String}
    (given : b.freeInput n = .ok (p, grown)) : grown.edges = b.edges := by
  unfold freeInput at given
  split at given
  · cases given
    rfl
  · split at given
    · cases given
      rfl
    · split at given <;> cases given
      rfl

theorem edges_of_openInput {b grown : Blueprint α} {target p : String} {given : Option String}
    (h : b.openInput target given = .ok (p, grown)) : grown.edges = b.edges := by
  cases given with
  | some _ =>
    cases h
    rfl
  | none =>
    rw [openInput] at h
    cases found : b.node target with
    | error f =>
      rw [found] at h
      cases h
    | ok n =>
      rw [found] at h
      exact edges_of_freeInput h

theorem edgeId_of_openInput {b grown : Blueprint α} {target p : String} {given id : Option String}
    (h : b.openInput target given = .ok (p, grown)) : grown.edgeId id = b.edgeId id := by
  unfold edgeId
  rw [edges_of_openInput h]

/-- The new blueprint, or the fault and the old one. -/
def settle (b : Blueprint α) :
    Except Fault (Blueprint α) → EStateM.Result Fault (Blueprint α) Unit
  | .ok done => .ok () done
  | .error f => .error f b

theorem connect_eq (b : Blueprint α) (w : Wire) :
    b.connect w.source w.target w.sourcePort w.targetPort w.edgeId = (do
      let output ← b.openOutput w.source w.sourcePort
      let (input, grown) ← b.openInput w.target w.targetPort
      return grown.join w output input) := by
  have steps : b.connect w.source w.target w.sourcePort w.targetPort w.edgeId = (do
      let output ← b.openOutput w.source w.sourcePort
      let (input, grown) ← b.openInput w.target w.targetPort
      return { grown with edges := grown.edges ++ [{
        id := b.edgeId w.edgeId, source := ⟨w.source, output⟩, target := ⟨w.target, input⟩ }] }) := by
    unfold connect openOutput openInput
    cases w.sourcePort <;> cases w.targetPort <;> simp only [bind_assoc, pure_bind] <;> rfl
  rw [steps]
  refine bind_congr fun output => ?_
  cases opened : b.openInput w.target w.targetPort with
  | error f => rfl
  | ok given =>
    obtain ⟨input, grown⟩ := given
    simp only [← edgeId_of_openInput opened]
    rfl

/-- Nothing fails once an input is grown: connecting step by step leaves the blueprint as it is unless
the edge is made. -/
theorem link_eq (b : Blueprint α) (w : Wire) :
    link w b = b.settle (b.connect w.source w.target w.sourcePort w.targetPort w.edgeId) := by
  rw [link, ask_bind, connect_eq]
  cases b.openOutput w.source w.sourcePort with
  | error f => rfl
  | ok output =>
    dsimp only
    rw [ask_bind]
    cases b.openInput w.target w.targetPort <;> rfl

theorem link_ok {b done : Blueprint α} {w : Wire} :
    link w b = .ok () done ↔ ∃ output input grown,
      b.openOutput w.source w.sourcePort = .ok output ∧
      b.openInput w.target w.targetPort = .ok (input, grown) ∧ grown.join w output input = done := by
  rw [link, ask_bind]
  cases b.openOutput w.source w.sourcePort with
  | error f => simp
  | ok output =>
    dsimp only
    rw [ask_bind]
    cases b.openInput w.target w.targetPort with
    | error f => simp
    | ok given =>
      constructor
      · intro made
        cases made
        exact ⟨output, given.1, given.2, rfl, rfl, rfl⟩
      · rintro ⟨_, _, _, left, entered, rfl⟩
        cases left
        cases entered
        rfl

theorem link_error {b after : Blueprint α} {w : Wire} {f : Fault}
    (failed : link w b = .error f after) : after = b := by
  rw [link_eq] at failed
  cases connected : b.connect w.source w.target w.sourcePort w.targetPort w.edgeId <;>
    rw [connected] at failed <;> cases failed
  rfl

/-- A row is connected link by link. -/
theorem chain_cons (source target : String) (rest : List String) :
    chain (α := α) (source :: target :: rest) =
      (do
        link { source, target }
        chain (target :: rest)) := by
  funext b
  have seen (next : Blueprint α → EStateM Fault (Blueprint α) Unit) :
      (get >>= next) b = next b b := rfl
  rw [chain, seen]
  simp only [bind, EStateM.bind, link_eq]
  cases b.connect source target none none none <;> rfl

/-- What a blueprint is asked for. -/
inductive Call (α : Type) [Scalar α]
  | add (a : Addition α)
  | connect (w : Wire)
  | chain (ids : List String)

namespace Call

variable [Scalar α]

def run : Call α → EStateM Fault (Blueprint α) Unit
  | add a => do
    let n ← ask fun _ => a.node
    modify fun b => b.add n
  | connect w => link w
  | chain ids => Blueprint.chain ids

theorem run_add (a : Addition α) (b : Blueprint α) :
    (add a).run b =
      match a.node with
      | .ok n => .ok () (b.add n)
      | .error f => .error f b := by
  rw [run, ask_bind]
  cases a.node <;> rfl

end Call

end Dungeon.Blueprint
