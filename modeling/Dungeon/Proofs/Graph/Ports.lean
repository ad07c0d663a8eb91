import Dungeon.Proofs.Graph.Feeding
import Mathlib.Data.List.Induction

/-!
# The ports of edges that calls make

A blueprint is built by any calls that add each node once and name no input port; some of them may
fail. What one call keeps is kept by all of them, so that merges are fed in order in every graph that
is built, and edges leave from ports that are there.
-/

namespace Dungeon.Blueprint

open Dungeon.Graph (entered)

variable {α : Type} [Scalar α]

namespace Call

/-- The node that a call adds. -/
def node? : Call α → Option (Node α)
  | add a => a.node.toOption
  | _ => none

/-- The call names no input port. -/
def Untargeted : Call α → Prop
  | connect w => w.targetPort = none
  | _ => True

/-- The call names no output port. -/
def Unsourced : Call α → Prop
  | connect w => w.sourcePort = none
  | _ => True

theorem run_error {c : Call α} (single : ∀ ids, c ≠ .chain ids) {b after : Blueprint α} {f : Fault}
    (failed : c.run b = .error f after) : after = b := by
  cases c with
  | add a =>
    rw [run_add] at failed
    cases made : a.node <;> rw [made] at failed <;> cases failed
    rfl
  | connect w => exact link_error failed
  | chain ids => exact absurd rfl (single ids)

end Call

/-- The blueprint after a call, whether the call came to something or failed. -/
def serve (b : Blueprint α) (c : Call α) : Blueprint α := afterwards (c.run b)

/-- A new blueprint after some calls. -/
def served (calls : List (Call α)) : Blueprint α := calls.foldl serve {}

theorem served_append (calls more : List (Call α)) :
    served (calls ++ more) = more.foldl serve (served calls) := List.foldl_append

/-- The nodes that the calls add. -/
def added (calls : List (Call α)) : List (Node α) := calls.filterMap Call.node?

/-- Each node is added once, merges have their default inputs, and no input port is named. -/
structure Orderly (calls : List (Call α)) : Prop where
  once : ((added calls).map Node.id).Nodup
  default : ∀ n ∈ added calls, n.kind = .merge → n.inputs = (NodeKind.merge.ports 2).inputs
  untargeted : ∀ c ∈ calls, c.Untargeted

theorem Orderly.of_append {calls more : List (Call α)} (h : Orderly (calls ++ more)) :
    Orderly calls := by
  obtain ⟨once, default, untargeted⟩ := h
  rw [added, List.filterMap_append, List.map_append] at once
  refine ⟨(List.nodup_append.1 once).1, fun n mem => default n ?_, fun c mem => untargeted c ?_⟩
  · rw [added, List.filterMap_append]
    exact List.mem_append_left _ mem
  · exact List.mem_append_left _ mem

/-- What a call keeps, and what is new in the blueprint that it leaves. -/
structure Kept (b : Blueprint α) (c : Call α) : Prop where
  regular : (b.serve c).Regular
  grows : Grows b (b.serve c)
  sourced : c.Unsourced → Sourced b (b.serve c)
  keys : ∀ id ∈ (b.serve c).nodes.keys, id ∈ b.nodes.keys ∨ ∃ n, c.node? = some n ∧ n.id = id

/-- A call that leaves the blueprint as it is. -/
theorem Regular.kept_of_eq {b : Blueprint α} {c : Call α} (regular : b.Regular)
    (same : b.serve c = b) : Kept b c := by
  refine ⟨?_, ?_, fun _ => ?_, ?_⟩ <;> rw [same]
  · exact regular
  · exact .refl b
  · exact .refl b
  · exact fun id mem => .inl mem

/-- One call. A node that it adds has to be new. -/
theorem Regular.after_call {b : Blueprint α} {c : Call α} (regular : b.Regular)
    (new : ∀ n, c.node? = some n → n.id ∉ b.nodes.keys)
    (default : ∀ n, c.node? = some n → n.kind = .merge → n.inputs = (NodeKind.merge.ports 2).inputs)
    (untargeted : c.Untargeted) : Kept b c := by
  cases c with
  | add a =>
    cases made : a.node with
    | error f =>
      apply regular.kept_of_eq
      rw [serve, Call.run_add, made]
      rfl
    | ok n =>
      have node : (Call.add a).node? = some n := by
        rw [Call.node?, made]
        rfl
      have after : b.serve (.add a) = b.add n := by
        rw [serve, Call.run_add, made]
        rfl
      obtain ⟨regular', grows⟩ := regular.after_add (new n node) (default n node)
      refine ⟨?_, ?_, fun _ => ?_, fun id mem => ?_⟩ <;> rw [after] at *
      · exact regular'
      · exact grows
      · exact ⟨[], (List.append_nil _).symm, by simp⟩
      · rw [add, Table.keys_insert, if_neg (new n node)] at mem
        rcases List.mem_append.1 mem with old | last
        · exact .inl old
        · exact .inr ⟨n, node, (List.mem_singleton.1 last).symm⟩
  | connect w =>
    cases made : link w b with
    | error f after =>
      apply regular.kept_of_eq
      rw [serve, Call.run, made]
      exact link_error made
    | ok u done =>
      have after : b.serve (.connect w) = done := by
        rw [serve, Call.run, made]
        rfl
      obtain ⟨linked, sourced⟩ := regular.after_link untargeted made
      refine ⟨?_, ?_, fun unsourced => ?_, fun id mem => ?_⟩ <;> rw [after] at *
      · exact linked.regular
      · exact linked.grows
      · exact sourced unsourced
      · exact .inl (linked.keys ▸ mem)
  | chain ids =>
    obtain ⟨linked, sourced⟩ := regular.after_chain ids
    exact ⟨linked.regular, linked.grows, fun _ => sourced, fun id mem => .inl (linked.keys ▸ mem)⟩

theorem added_snoc (calls : List (Call α)) (c : Call α) :
    added (calls ++ [c]) = added calls ++ c.node?.toList := by
  rw [added, List.filterMap_append]
  rfl

theorem served_snoc (calls : List (Call α)) (c : Call α) :
    served (calls ++ [c]) = (served calls).serve c := served_append calls [c]

theorem Orderly.kept {calls : List (Call α)} {c : Call α} (h : Orderly (calls ++ [c]))
    (regular : (served calls).Regular)
    (keys : ∀ id ∈ (served calls).nodes.keys, id ∈ (added calls).map Node.id) :
    Kept (served calls) c := by
  refine regular.after_call (fun n node old => ?_) (fun n node => h.default n ?_)
    (h.untargeted c (by simp))
  · have once := h.once
    rw [added_snoc, node, List.map_append, List.nodup_append] at once
    exact once.2.2 _ (keys _ old) n.id (by simp) rfl
  · rw [added_snoc, node]
    simp

/-- Whatever calls were made, merges are fed in order, and every node was added. -/
theorem Orderly.regular {calls : List (Call α)} (h : Orderly calls) :
    (served calls).Regular ∧ ∀ id ∈ (served calls).nodes.keys, id ∈ (added calls).map Node.id := by
  induction calls using List.reverseRecOn with
  | nil =>
    refine ⟨⟨fun id n found => ?_, .nil, fun e edge => ?_, fun id n found => ?_⟩, fun id mem => ?_⟩
    · cases found
    · cases edge
    · cases found
    · cases mem
  | append_singleton calls c ih =>
    obtain ⟨regular, keys⟩ := ih h.of_append
    have kept := h.kept regular keys
    rw [served_snoc]
    refine ⟨kept.regular, fun id mem => ?_⟩
    rw [added_snoc, List.map_append, List.mem_append]
    rcases kept.keys id mem with old | ⟨n, node, same⟩
    · exact .inl (keys id old)
    · right
      rw [node, ← same]
      simp

theorem Orderly.kept_last {calls : List (Call α)} {c : Call α} (h : Orderly (calls ++ [c])) :
    Kept (served calls) c := h.kept h.of_append.regular.1 h.of_append.regular.2

theorem Orderly.grows {calls more : List (Call α)} (h : Orderly (calls ++ more)) :
    Grows (served calls) (served (calls ++ more)) := by
  induction more using List.reverseRecOn with
  | nil =>
    rw [List.append_nil]
    exact .refl _
  | append_singleton more c ih =>
    rw [← List.append_assoc] at h ⊢
    rw [served_snoc]
    exact (ih h.of_append).trans h.kept_last.grows

/-- After any calls, failing ones among them, that add each node once, merges with their default
inputs, and name no input port: the inputs of a merge are numbered, two or as many as its edges, each
edge enters through one of its own, an edge for which no output port was named leaves from a port of
its source node, and adding or connecting in vain has changed nothing. -/
theorem served_ports {calls : List (Call α)} (orderly : Orderly calls) :
    (∀ n ∈ (served calls).build.nodes, n.kind = .merge →
      n.inputs.map Port.id = (List.range' 1 (max 2 (Graph.fanIn (served calls).build.edges n.id))).map
        (fun i => "in" ++ toString i) ∧
      (entered (served calls).build.edges n.id).Nodup ∧
      ∀ p ∈ entered (served calls).build.edges n.id, p ∈ n.inputs.map Port.id) ∧
    (∀ before c later, calls = before ++ c :: later → c.Unsourced →
      ∃ made, (served (before ++ [c])).edges = (served before).edges ++ made ∧
        (served before).edges ++ made <+: (served calls).build.edges ∧
        ∀ e ∈ made, ∃ n p, (served calls).build.node? e.source.node = some n ∧
          n.output? e.source.port = some p) ∧
    ∀ c : Call α, (∀ ids, c ≠ .chain ids) → ∀ b f after, c.run b = .error f after → after = b := by
  obtain ⟨regular, _⟩ := orderly.regular
  refine ⟨fun n node merge => (regular.fed n.id n (regular.find?_of_mem node) merge).ports,
    fun before c later split unsourced => ?_, fun c single b f after => Call.run_error single⟩
  have parts : calls = (before ++ [c]) ++ later := by
    rw [split, List.append_assoc]
    rfl
  rw [parts] at orderly regular ⊢
  obtain ⟨made, edges, leave⟩ := orderly.of_append.kept_last.sourced unsourced
  rw [← served_snoc] at edges leave
  refine ⟨made, edges, edges ▸ orderly.grows.edges, fun e mem => ?_⟩
  obtain ⟨n, found, port⟩ := (leave e mem).mono orderly.grows
  obtain ⟨p, output⟩ := exists_output? port
  exact ⟨n, p, regular.node?_of_find? found, output⟩

theorem inputs_of_node {a : Addition α} {n : Node α} (made : a.node = .ok n) (none : a.inputs = none)
    (merge : n.kind = .merge) : n.inputs = (NodeKind.merge.ports 2).inputs := by
  obtain ⟨kind, _, made⟩ := except_bind_eq_ok.1 made
  obtain ⟨data, _, made⟩ := except_bind_eq_ok.1 made
  obtain ⟨ports, given, made⟩ := except_bind_eq_ok.1 made
  cases made
  have named : (if data.kind = kind then data else kind.defaults).kind = kind := by
    split
    next own => exact own
    next => exact kind.kind_defaults
  obtain rfl : kind = .merge := named.symm.trans merge
  cases given
  rw [none]
  rfl

/-- A merge that is added without inputs has those of a fresh one. -/
theorem default_of_none {calls : List (Call α)} (none : ∀ a, .add a ∈ calls → a.inputs = none) :
    ∀ n ∈ added calls, n.kind = .merge → n.inputs = (NodeKind.merge.ports 2).inputs := by
  intro n mem merge
  obtain ⟨c, call, node⟩ := List.mem_filterMap.1 mem
  cases c with
  | add a =>
    cases made : a.node with
    | error f =>
      rw [Call.node?, made] at node
      cases node
    | ok m =>
      rw [Call.node?, made] at node
      cases node
      exact inputs_of_node made (none a call) merge
  | connect w => cases node
  | chain ids => cases node

namespace Estuary

/-- Three ways into a merge; an edge to a node that is not there fails in between. -/
def calls : List (Call Float) :=
  [.add { id := "start", type := "start" }, .add { id := "join", type := "merge" },
    .chain ["start", "join"], .connect { source := "join", target := "exit" },
    .add { id := "exit", type := "output" }, .chain ["start", "join", "exit"],
    .connect { source := "start", target := "join", sourcePort := some "out" }]

theorem orderly : Orderly calls where
  once := by
    have ids : (added calls).map Node.id = ["start", "join", "exit"] := by rfl
    rw [ids]
    decide
  default := by
    apply default_of_none
    intro a mem
    simp only [calls, List.mem_cons, Call.add.injEq, reduceCtorEq, List.not_mem_nil, or_false,
      false_or] at mem
    rcases mem with rfl | rfl | rfl <;> rfl
  untargeted := by
    intro c mem
    simp only [calls, List.mem_cons, List.not_mem_nil, or_false] at mem
    rcases mem with rfl | rfl | rfl | rfl | rfl | rfl | rfl <;> simp [Call.Untargeted]

end Estuary

open Estuary in
/-- The merge has grown a third input for its third edge. -/
theorem served_ports_estuary : Orderly calls ∧ ∃ n ∈ (served calls).build.nodes, n.kind = .merge ∧
    Graph.fanIn (served calls).build.edges n.id = 3 ∧ n.inputs.map Port.id = ["in1", "in2", "in3"] := by
  have nodes : (served calls).build.nodes.map (fun n => (n.id, n.kind)) =
      [("start", .start), ("join", .merge), ("exit", .output)] := by rfl
  have join : ("join", NodeKind.merge) ∈
      (served calls).build.nodes.map fun n => (n.id, n.kind) := by simp [nodes]
  obtain ⟨n, node, same⟩ := List.mem_map.1 join
  obtain ⟨id, merge⟩ := Prod.mk.inj same
  have three : Graph.fanIn (served calls).build.edges n.id = 3 := by
    rw [id]
    rfl
  refine ⟨orderly, n, node, merge, three, ?_⟩
  obtain ⟨inputs, _, _⟩ := (served_ports orderly).1 n node merge
  rw [inputs, three]
  rfl

end Dungeon.Blueprint
