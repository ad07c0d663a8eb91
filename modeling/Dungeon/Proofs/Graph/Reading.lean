import Dungeon.Proofs.Graph.Misreading
import Mathlib.Data.List.Forall2

/-!
# When graphs can be read

Reading goes on after a bad node or edge, and all of them are reported together: one report for each
bad node, then one for each bad edge. Only two things end the reading of the graph, and the reports on
the others are lost with it: a node with a number that is too large, and a bad node under an id that
cannot be written.
-/

namespace Dungeon.Graph

variable {α : Type}

open Value

/-- An entry that cannot be read, with its place and what is wrong with it. -/
structure Misfit (α : Type) where
  place : Nat
  entry : Value α
  fault : Fault

/-- What ends the reading at a bad entry: its own fault if that is not collected, or the one that
reporting it fails with. -/
def Misfit.stop? (report : Nat → Value α → Fault → Except Fault Violation) (m : Misfit α) :
    Option Fault :=
  if collected m.fault then
    match report m.place m.entry m.fault with
    | .ok _ => none
    | .error f => some f
  else some m.fault

section

variable {β : Type} (read : Nat → Value α → Except Fault β)

/-- What the good ones of some entries are read to, when they are numbered from `i` on. -/
def fits (i : Nat) (vs : List (Value α)) : List β :=
  (vs.zipIdx i).filterMap fun (v, j) => (read j v).toOption

/-- The bad entries. -/
def misfits (i : Nat) (vs : List (Value α)) : List (Misfit α) :=
  (vs.zipIdx i).filterMap fun (v, j) =>
    match read j v with
    | .ok _ => none
    | .error f => some ⟨j, v, f⟩

variable {read} {i : Nat} {v : Value α} {vs : List (Value α)}

theorem fits_cons_ok {x : β} (given : read i v = .ok x) :
    fits read i (v :: vs) = x :: fits read (i + 1) vs := by
  simp [fits, given, Except.toOption]

theorem fits_cons_error {f : Fault} (failed : read i v = .error f) :
    fits read i (v :: vs) = fits read (i + 1) vs := by
  simp [fits, failed, Except.toOption]

theorem misfits_cons_ok {x : β} (given : read i v = .ok x) :
    misfits read i (v :: vs) = misfits read (i + 1) vs := by
  simp [misfits, given]

theorem misfits_cons_error {f : Fault} (failed : read i v = .error f) :
    misfits read i (v :: vs) = ⟨i, v, f⟩ :: misfits read (i + 1) vs := by
  simp [misfits, failed]

theorem mem_misfits {m : Misfit α} :
    m ∈ misfits read i vs ↔
      (m.entry, m.place) ∈ vs.zipIdx i ∧ read m.place m.entry = .error m.fault := by
  simp only [misfits, List.mem_filterMap]
  constructor
  · rintro ⟨⟨v, j⟩, mem, bad⟩
    dsimp only at bad
    split at bad
    next => cases bad
    next failed =>
      cases bad
      exact ⟨mem, failed⟩
  · rintro ⟨mem, failed⟩
    refine ⟨(m.entry, m.place), mem, ?_⟩
    dsimp only
    rw [failed]

/-- Reading ends at the first bad entry that stops it; where there is none it gives the good entries
and one report for each bad one. -/
theorem readAll_eq {report : Nat → Value α → Fault → Except Fault Violation}
    {words : Nat → Value α → Fault → Violation}
    (told : ∀ i v f violation, report i v f = .ok violation → words i v f = violation)
    (i : Nat) (vs : List (Value α)) :
    readAll read report i vs =
      match (misfits read i vs).findSome? (Misfit.stop? report) with
      | some f => .error f
      | none => .ok {
          items := fits read i vs
          violations := (misfits read i vs).map fun m => words m.place m.entry m.fault } := by
  induction vs generalizing i with
  | nil => rfl
  | cons v rest ih =>
    rw [readAll]
    cases given : read i v with
    | ok x =>
      rw [fits_cons_ok given, misfits_cons_ok given, ih]
      cases (misfits read (i + 1) rest).findSome? (Misfit.stop? report) <;> rfl
    | error f =>
      rw [fits_cons_error given, misfits_cons_error given, ih, List.findSome?_cons]
      cases reported : collected f with
      | false => simp [Misfit.stop?, reported]
      | true =>
        cases said : report i v f with
        | error e =>
          simp only [Misfit.stop?, reported, said, if_true]
          rfl
        | ok violation =>
          simp only [Misfit.stop?, reported, said, if_true, List.map_cons, told i v f violation said]
          cases (misfits read (i + 1) rest).findSome? (Misfit.stop? report) <;> rfl

end

variable [Scalar α]

def badNodes (vs : List (Value α)) : List (Misfit α) := misfits (fun _ => Node.read) 0 vs

def badEdges (vs : List (Value α)) : List (Misfit α) := misfits (fun i => Edge.read i) 0 vs

/-- The reports on the bad nodes, in their order, and behind them those on the bad edges. -/
def reports (nodes edges : List (Value α)) : List Violation :=
  ((badNodes nodes).map fun m => badNode m.place m.entry m.fault) ++
    (badEdges edges).map fun m => badEdge m.place m.fault

/-- Where a bad node is reported, it is in the words of `badNode`. -/
theorem told_badNode (i : Nat) (v : Value α) (f : Fault) (violation : Violation)
    (said : Value.writing [givenId v] (badNode i v f) = .ok violation) : badNode i v f = violation :=
  (writing_eq_ok.1 said).2

omit [Scalar α] in
theorem told_badEdge (i : Nat) (_ : Value α) (f : Fault) (violation : Violation)
    (said : (Except.ok (badEdge i f) : Except Fault Violation) = .ok violation) :
    badEdge i f = violation :=
  Except.ok.inj said

omit [Scalar α] in
/-- Reading goes on after a bad edge. -/
theorem no_stop {m : Misfit α} (reported : collected m.fault = true) :
    m.stop? (fun i _ f => .ok (badEdge i f)) = none := by
  simp [Misfit.stop?, reported]

/-- A bad node ends the reading with a fault that is not collected, or under an id that cannot be
written. -/
theorem stop_cases {m : Misfit α} {f : Fault}
    (stops : m.stop? (fun i v f => Value.writing [givenId v] (badNode i v f)) = some f) :
    (f = m.fault ∧ collected m.fault = false) ∨
      (f = .unwritable ∧ (givenId m.entry).writable = false) := by
  unfold Misfit.stop? at stops
  split at stops
  · split at stops
    · cases stops
    next failed =>
      cases stops
      have said : FailsOnly (fun f => f = .unwritable ∧ (givenId m.entry).writable = false)
          (Value.writing [givenId m.entry] (badNode m.place m.entry m.fault)) :=
        .writing fun unwritable => ⟨rfl, by simpa using unwritable⟩
      exact .inr (said _ failed)
  next escapes =>
    cases stops
    exact .inl ⟨rfl, by simpa using escapes⟩

theorem collected_of_badEdges {vs : List (Value α)} {m : Misfit α} (bad : m ∈ badEdges vs) :
    collected m.fault = true :=
  reported_edge _ _ _ (mem_misfits.1 bad).2

theorem bad_node {vs : List (Value α)} {m : Misfit α} (bad : m ∈ badNodes vs) :
    m.entry ∈ vs ∧ Node.read m.entry = .error m.fault := by
  obtain ⟨mem, failed⟩ := mem_misfits.1 bad
  exact ⟨List.fst_mem_of_mem_zipIdx mem, failed⟩

section

variable {ps : Fields α} {nodes edges : List (Value α)}
  (nodesGiven : field ps "nodes" = .list nodes) (edgesGiven : field ps "edges" = .list edges)
  (ungrouped : (field ps "groups").truthy = false)
include nodesGiven edgesGiven ungrouped

/-- The first bad node that ends the reading decides; else the reports do. -/
theorem read_eq :
    read (.object ps) =
      match (badNodes nodes).findSome?
          (Misfit.stop? fun i v f => Value.writing [givenId v] (badNode i v f)) with
      | some f => .error f
      | none =>
        if reports nodes edges = [] then .ok {
          nodes := fits (fun _ => Node.read) 0 nodes, edges := fits (fun i => Edge.read i) 0 edges }
        else .error (.invalidGraph (reports nodes edges)) := by
  have parts (vs : List (Value α)) : (Value.list vs).partsOrNone = .ok vs := by
    cases vs <;> rfl
  have groups : (field ps "groups").partsOrNone = .ok [] := by
    rw [partsOrNone, ungrouped]
    rfl
  have edgesRead : (badEdges edges).findSome? (Misfit.stop? fun i _ f => .ok (badEdge i f)) = none :=
    List.findSome?_eq_none_iff.2 fun m bad => no_stop (collected_of_badEdges bad)
  unfold reports badNodes badEdges at *
  simp only [read, bind, Except.bind, members, nodesGiven, edgesGiven, parts, groups,
    readAll_eq told_badNode, readAll_eq told_badEdge, edgesRead]
  cases (misfits (fun _ => Node.read) 0 nodes).findSome?
      (Misfit.stop? fun i v f => Value.writing [givenId v] (badNode i v f)) with
  | some f => rfl
  | none =>
    simp only [List.isEmpty_iff]
    rfl

end

namespace Spoilt

/-- A node without a kind, a hall with a number of doors, and an edge without ends. -/
def nodes (doors : Value Float) : List (Value Float) :=
  [.record [("id", .text "portal"), ("type", .text "teleporter")],
    .record [("id", .text "hall"), ("type", .text "room"),
      ("data", .record [("doorCount", doors)])]]

def edges : List (Value Float) := [.record []]

def fields (doors : Value Float) : Fields Float :=
  .ofTexts [("nodes", .list (nodes doors)), ("edges", .list edges)]

end Spoilt

/-- A node that is nothing but an id with very many digits ends it too. -/
theorem read_unwritable :
    read (.object (.ofTexts [("nodes", .list [.record [("id", .int (Int.pow 10 5000))]]),
      ("edges", .list [])] : Fields Float)) = .error .unwritable := by
  have facts : (match read (.object (.ofTexts
        [("nodes", .list [.record [("id", .int (Int.pow 10 5000))]]), ("edges", .list [])] :
          Fields Float)) with
      | .error .unwritable => true
      | _ => false) = true := by decide +kernel
  split at facts
  next failed => exact failed
  next => cases facts

end Dungeon.Graph
