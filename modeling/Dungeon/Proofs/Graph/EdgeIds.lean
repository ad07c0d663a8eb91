import Dungeon.Graph.Calls
import Dungeon.Proofs.Graph.Cycle
import Dungeon.Proofs.Numbered
import Dungeon.Proofs.Work.Survival

/-!
# The ids of edges that calls make

An edge that is given no id gets one from its place. These ids differ from each other, but an id that
is given to one edge may be that of another one's place. `Clash` says so, and it is the only way in
which two edges come to have one id, as long as the ids that are given differ.
-/

namespace Dungeon

variable {α : Type}

namespace Graph

/-- Only the check of edge ids reports one that is used more than once. -/
theorem mem_errors_duplicateEdge_iff {g : Graph α} {v : Violation} :
    v ∈ g.errors ∧ v.code = .duplicateEdge ↔ v ∈ g.duplicateEdges := by
  constructor
  · rintro ⟨error, code⟩
    rcases mem_or_code_of_errors error with twice | other | cyclic | last
    · exact twice
    · simp [code] at other
    · cases code.symm.trans (code_of_cycles cyclic)
    · have codes := code_of_startAndOutputs last
      simp [code] at codes
  · intro twice
    exact ⟨by simp [errors, twice], code_of_duplicateEdges twice⟩

/-- There is such an error iff two edges have one id. -/
theorem duplicateEdge_iff {g : Graph α} :
    (∃ v ∈ g.errors, v.code = .duplicateEdge) ↔ ¬ (g.edges.map Edge.id).Nodup := by
  have none : g.duplicateEdges = [] ↔ (g.edges.map Edge.id).Nodup := by
    rw [duplicateEdges, List.map_eq_nil_iff, repeated_eq_nil_iff]
  simp only [mem_errors_duplicateEdge_iff]
  rw [← none, List.eq_nil_iff_forall_not_mem]
  simp

end Graph

namespace Blueprint

/-- The id of the edge at a place, counted from 0, if none is given. -/
def placeId (i : Nat) : String := "e" ++ toString (i + 1)

/-- The ids of edges from a place on, some of which are given. -/
def idsFrom (i : Nat) (given : List (Option String)) : List String :=
  given.mapIdx fun j id => id.getD (placeId (i + j))

theorem placeId_inj {i j : Nat} : placeId i = placeId j ↔ i = j := by
  rw [placeId, placeId, Text.append_toString_inj]
  omega

@[simp] theorem length_idsFrom (i : Nat) (given : List (Option String)) :
    (idsFrom i given).length = given.length := by
  simp [idsFrom]

theorem idsFrom_append (i : Nat) (given more : List (Option String)) :
    idsFrom i (given ++ more) = idsFrom i given ++ idsFrom (i + given.length) more := by
  simp only [idsFrom, List.mapIdx_append, Nat.add_assoc, Nat.add_comm given.length]

/-- An id that is empty is none. -/
theorem edgeId_eq (b : Blueprint α) (given : Option String) :
    b.edgeId given = (given.filter fun id => !id.isEmpty).getD (placeId b.edges.length) := by
  cases given with
  | none => rfl
  | some id => cases empty : id.isEmpty <;> simp [edgeId, placeId, empty, Option.filter]

/-- An edge is given the id that another one has from its place. -/
def Clash (given : List (Option String)) : Prop :=
  ∃ i, given[i]? = some none ∧ some (placeId i) ∈ given

/-- Where the ids that are given differ, all ids do, unless there is a clash. -/
theorem nodup_idsFrom_iff {given : List (Option String)} (distinct : (given.filterMap id).Nodup) :
    (idsFrom 0 given).Nodup ↔ ¬ Clash given := by
  have id? (i : Nat) : (idsFrom 0 given)[i]? = given[i]?.map (·.getD (placeId i)) := by
    simp [idsFrom]
  constructor
  · rintro nodup ⟨i, left, named⟩
    obtain ⟨j, there⟩ := List.mem_iff_getElem?.1 named
    have bound : i < (idsFrom 0 given).length := by
      rw [length_idsFrom]
      exact (List.getElem?_eq_some_iff.1 left).1
    have same : i = j := (List.getElem?_inj bound nodup).1 (by simp [id?, left, there])
    rw [same, there] at left
    cases left
  · intro apart
    have differ : given.Pairwise fun x y => ∀ a, x = some a → ∀ b, y = some b → a ≠ b :=
      List.pairwise_filterMap.1 distinct
    have clash {i j : Nat} (hi : i < given.length) (hj : j < given.length)
        (left : given[i] = none) (named : given[j] = some (placeId i)) : False :=
      apart ⟨i, (List.getElem?_eq_getElem hi).trans (congrArg some left), named ▸ List.getElem_mem hj⟩
    refine List.pairwise_iff_getElem.2 fun i j hi hj before same => ?_
    rw [length_idsFrom] at hi hj
    simp only [idsFrom, List.getElem_mapIdx, Nat.zero_add] at same
    cases at_i : given[i] with
    | none =>
      cases at_j : given[j] with
      | none =>
        rw [at_i, at_j] at same
        exact Nat.ne_of_lt before (placeId_inj.1 same)
      | some b =>
        rw [at_i, at_j] at same
        exact clash hi hj at_i (at_j.trans (congrArg some same.symm))
    | some a =>
      cases at_j : given[j] with
      | none =>
        rw [at_i, at_j] at same
        exact clash hj hi at_j (at_i.trans (congrArg some same))
      | some b =>
        rw [at_i, at_j] at same
        exact List.pairwise_iff_getElem.1 differ i j hi hj before a at_i b at_j same

theorem ids_link {b done : Blueprint α} {w : Wire} (made : link w b = .ok () done) :
    done.edges.map Edge.id = b.edges.map Edge.id ++ [b.edgeId w.edgeId] := by
  obtain ⟨output, input, grown, _, opened, rfl⟩ := link_ok.1 made
  rw [join, List.map_append, edges_of_openInput opened, List.map_singleton,
    edgeId_of_openInput opened]

/-- New edges have the ids that are given to them, or those of their places. -/
def Numbers (b b' : Blueprint α) (given : List (Option String)) : Prop :=
  b'.edges.map Edge.id = b.edges.map Edge.id ++ idsFrom b.edges.length given

theorem Numbers.trans {b b' b'' : Blueprint α} {given more : List (Option String)}
    (first : Numbers b b' given) (second : Numbers b' b'' more) : Numbers b b'' (given ++ more) := by
  have length : b'.edges.length = b.edges.length + given.length := by
    have lengths := congrArg List.length first
    simpa using lengths
  rw [Numbers, second, first, List.append_assoc, length, ← idsFrom_append]

theorem Numbers.of_link {b done : Blueprint α} {w : Wire} (made : link w b = .ok () done) :
    Numbers b done [w.edgeId.filter fun id => !id.isEmpty] := by
  rw [Numbers, ids_link made, edgeId_eq]
  rfl

theorem Numbers.of_chain {ids : List String} {b done : Blueprint α}
    (made : chain ids b = .ok () done) : Numbers b done (List.replicate (ids.length - 1) none) := by
  induction ids generalizing b with
  | nil =>
    cases made
    simp [Numbers, idsFrom]
  | cons source rest ih =>
    cases rest with
    | nil =>
      cases made
      simp [Numbers, idsFrom]
    | cons target rest =>
      rw [chain_cons] at made
      obtain ⟨_, next, first, made⟩ := bind_eq_ok.1 made
      exact (Numbers.of_link first).trans (ih made)

section

variable [Scalar α]

/-- The id that a call gives to each of its edges, if any. -/
def Call.ids : Call α → List (Option String)
  | add _ => []
  | connect w => [w.edgeId.filter fun id => !id.isEmpty]
  | chain ids => List.replicate (ids.length - 1) none

theorem Numbers.of_run {c : Call α} {b done : Blueprint α} (made : c.run b = .ok () done) :
    Numbers b done c.ids := by
  cases c with
  | add a =>
    rw [Call.run_add] at made
    cases node : a.node <;> rw [node] at made <;> cases made
    simp [Numbers, add, idsFrom, Call.ids]
  | connect w => exact .of_link made
  | chain ids => exact .of_chain made

/-- Run the calls until one fails. -/
def runAll (calls : List (Call α)) : EStateM Fault (Blueprint α) Unit := calls.forM Call.run

/-- The ids that calls give to their edges, one for each edge. -/
def givenIds (calls : List (Call α)) : List (Option String) := calls.flatMap Call.ids

theorem Numbers.of_runAll {calls : List (Call α)} {b done : Blueprint α}
    (made : runAll calls b = .ok () done) : Numbers b done (givenIds calls) := by
  induction calls generalizing b with
  | nil =>
    cases made
    simp [Numbers, idsFrom, givenIds]
  | cons c rest ih =>
    obtain ⟨_, next, first, made⟩ := bind_eq_ok.1 made
    exact (Numbers.of_run first).trans (ih made)

/-- After calls that succeed and give different ids, all edges have different ids iff no id that is
given is that of another edge's place; otherwise, and only then, validation reports that an edge id is
used more than once. -/
theorem runAll_ids {calls : List (Call α)} {b : Blueprint α} (made : runAll calls {} = .ok () b)
    (distinct : ((givenIds calls).filterMap id).Nodup) :
    ((b.build.edges.map Edge.id).Nodup ↔ ¬ Clash (givenIds calls)) ∧
    ∃ report, b.build.validate = .ok report ∧
      ((∃ v ∈ report.errors, v.code = .duplicateEdge) ↔ Clash (givenIds calls)) := by
  have ids : b.build.edges.map Edge.id = idsFrom 0 (givenIds calls) := Numbers.of_runAll made
  have nodup : (b.build.edges.map Edge.id).Nodup ↔ ¬ Clash (givenIds calls) := by
    rw [ids, nodup_idsFrom_iff distinct]
  have ungrouped : ∀ group ∈ b.build.groups, ∀ v ∈ group.nodeIds, ∃ s, v = .text s := by
    intro group mem
    cases mem
  obtain ⟨report, ran, errors⟩ := Graph.validate_ok ungrouped
  refine ⟨nodup, report, ran, ?_⟩
  rw [errors, Graph.duplicateEdge_iff, nodup, Classical.not_not]

end

namespace Trail

/-- A way from the start to the exit whose first edge is given an id. -/
def calls (id : String) : List (Call Float) :=
  [.add { id := "start", type := "start" }, .add { id := "hall", type := "room" },
    .add { id := "exit", type := "output" },
    .connect { source := "start", target := "hall", edgeId := some id },
    .connect { source := "hall", target := "exit" }]

end Trail

open Trail in
theorem runAll_ids_way : ∃ b, runAll (calls "way") {} = .ok () b ∧
    ((givenIds (calls "way")).filterMap id).Nodup ∧ (b.build.edges.map Edge.id).Nodup := by
  have distinct : ((givenIds (calls "way")).filterMap id).Nodup := by
    have ids : (givenIds (calls "way")).filterMap id = ["way"] := by rfl
    rw [ids]
    exact List.nodup_singleton _
  refine ⟨_, rfl, distinct, (runAll_ids rfl distinct).1.2 ?_⟩
  rintro ⟨i, left, named⟩
  have given : givenIds (calls "way") = [some "way", none] := by rfl
  rw [given] at left named
  match i with
  | 0 => cases left
  | 1 => exact absurd named (by decide)
  | i + 2 => cases left

open Trail in
/-- The second edge is named after its place, and the first one has that name. -/
theorem runAll_twins : ∃ b, runAll (calls "e2") {} = .ok () b ∧
    ((givenIds (calls "e2")).filterMap id).Nodup ∧ b.build.edges.map Edge.id = ["e2", "e2"] ∧
    ∃ v ∈ b.build.errors, v.code = .duplicateEdge := by
  have distinct : ((givenIds (calls "e2")).filterMap id).Nodup := by
    have ids : (givenIds (calls "e2")).filterMap id = ["e2"] := by rfl
    rw [ids]
    exact List.nodup_singleton _
  refine ⟨_, rfl, distinct, rfl, Graph.duplicateEdge_iff.2 ?_⟩
  show ¬ ["e2", "e2"].Nodup
  decide

end Blueprint

end Dungeon
