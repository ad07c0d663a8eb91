import Dungeon.Graph.Calls
import Dungeon.Proofs.Graph.Sound
import Dungeon.Proofs.Numbered
import Dungeon.Proofs.Steady
import Mathlib.Data.List.Nodup

/-!
# How merges of a blueprint are fed

Edges whose input ports are chosen fill the inputs of a merge in their order: `Blueprint.Regular` says
that a merge has the numbered inputs that its edges need, and that they enter through the first of
them. Single edges, rows of edges and new nodes keep that, whether they come to something or fail.
-/

namespace Dungeon

variable {α : Type}

/-- The names of numbered ports, from 1 up. -/
def pathIds (stem : String) (count : Nat) : List String :=
  (List.range' 1 count).map fun i => stem ++ toString i

theorem pathIds_succ (stem : String) (count : Nat) :
    pathIds stem (count + 1) = pathIds stem count ++ [stem ++ toString (count + 1)] := by
  rw [pathIds, List.range'_concat, List.map_append, Nat.one_mul, Nat.add_comm 1 count]
  rfl

theorem ids_pathPorts (stem : String) (count : Nat) :
    (pathPorts (α := α) .input stem count).map Port.id = pathIds stem count := by
  rw [pathPorts, List.map_map]
  rfl

theorem pathPorts_succ (make : String → String → String → Port α) (stem : String) (count : Nat) :
    pathPorts make stem (count + 1) = pathPorts make stem count ++
      [make (stem ++ toString (count + 1)) ("Path " ++ toString (count + 1)) "room"] := by
  rw [pathPorts, List.range'_concat, List.map_append, Nat.one_mul, Nat.add_comm 1 count]
  rfl

theorem mem_pathIds {stem : String} {count i : Nat} :
    stem ++ toString i ∈ pathIds stem count ↔ 0 < i ∧ i ≤ count := by
  simp only [pathIds, List.mem_map, Text.append_toString_inj, exists_eq_right, List.mem_range'_1]
  omega

theorem nodup_pathIds (stem : String) (count : Nat) : (pathIds stem count).Nodup :=
  List.Nodup.map (fun _ _ same => Text.append_toString_inj.1 same) (List.nodup_range' ..)

theorem pathIds_subset (stem : String) {few many : Nat} (le : few ≤ many) :
    pathIds stem few ⊆ pathIds stem many := by
  intro id mem
  obtain ⟨i, member, rfl⟩ := List.mem_map.1 mem
  have bounds := List.mem_range'_1.1 member
  exact mem_pathIds.2 (by omega)

/-- The ports through which edges enter a node, in the order of the edges. -/
def Graph.entered (edges : List (Edge α)) (id : String) : List String :=
  (edges.filter fun e => e.target.node == id).map fun e => e.target.port

namespace Blueprint

open Dungeon.Graph (entered)

theorem entered_snoc (edges : List (Edge α)) (e : Edge α) (id : String) :
    entered (edges ++ [e]) id =
      entered edges id ++ if e.target.node = id then [e.target.port] else [] := by
  by_cases here : e.target.node = id <;> simp [entered, here]

theorem any_target_eq (edges : List (Edge α)) (id port : String) :
    edges.any (·.target == ⟨id, port⟩) = decide (port ∈ entered edges id) := by
  have parts (r : PortRef) : r = ⟨id, port⟩ ↔ r.node = id ∧ r.port = port := by
    cases r
    simp
  rw [Bool.eq_iff_iff, List.any_eq_true, decide_eq_true_iff, entered]
  simp only [List.mem_map, List.mem_filter, beq_iff_eq, parts, and_assoc]

theorem length_entered (edges : List (Edge α)) (id : String) :
    (entered edges id).length = Graph.fanIn edges id := by
  rw [entered, List.length_map, Graph.fanIn, List.countP_eq_length_filter]

/-- A merge has two inputs, or one for each edge if these are more, and each edge has taken the first
input that was free. -/
structure Fed (edges : List (Edge α)) (n : Node α) : Prop where
  inputs : n.inputs = pathPorts .input "in" (max 2 (entered edges n.id).length)
  entered : entered edges n.id = pathIds "in" (entered edges n.id).length

/-- The inputs are numbered, and no two edges enter through the same one. -/
theorem Fed.ports {edges : List (Edge α)} {n : Node α} (fed : Fed edges n) :
    n.inputs.map Port.id =
      (List.range' 1 (max 2 (Graph.fanIn edges n.id))).map (fun i => "in" ++ toString i) ∧
    (Graph.entered edges n.id).Nodup ∧ ∀ p ∈ Graph.entered edges n.id, p ∈ n.inputs.map Port.id := by
  have inputs : n.inputs.map Port.id = pathIds "in" (max 2 (Graph.fanIn edges n.id)) := by
    rw [fed.inputs, ids_pathPorts, length_entered]
  refine ⟨inputs, ?_, ?_⟩
  · rw [fed.entered]
    exact nodup_pathIds ..
  · show Graph.entered edges n.id ⊆ n.inputs.map Port.id
    rw [inputs, fed.entered, length_entered]
    exact pathIds_subset "in" (le_max_right ..)

/-- The input that comes after the ones that are taken is the first that is free. -/
theorem Fed.find?_free {edges : List (Edge α)} {n : Node α} (fed : Fed edges n) {k : Nat}
    (count : (Graph.entered edges n.id).length = k) :
    n.inputs.find? (fun p => !edges.any (·.target == ⟨n.id, p.id⟩)) =
      if k < 2 then some (.input ("in" ++ toString (k + 1)) ("Path " ++ toString (k + 1)) "room")
      else none := by
  have taken (i : Nat) : edges.any (·.target == ⟨n.id, "in" ++ toString i⟩) =
      decide (0 < i ∧ i ≤ k) := by
    rw [any_target_eq, fed.entered, count]
    exact decide_eq_decide.2 mem_pathIds
  rw [fed.inputs, count, pathPorts, List.find?_map]
  simp only [Function.comp_def, Port.input, taken]
  split
  next few =>
    rw [Option.map_eq_some_iff]
    refine ⟨k + 1, List.find?_range'_eq_some.2 ⟨?_, ?_, fun j low before => ?_⟩, rfl⟩
    · simp only [Bool.not_eq_true', decide_eq_false_iff_not]
      omega
    · rw [List.mem_range'_1]
      omega
    · simp only [Bool.not_not, decide_eq_true_eq]
      omega
  next many =>
    rw [Option.map_eq_none_iff, List.find?_range'_eq_none]
    intro i low within
    simp only [Bool.not_not, decide_eq_true_eq]
    omega

/-- The next edge to a merge takes an input of its own. -/
theorem freeInput_merge {b : Blueprint α} {n : Node α} (merge : n.kind = .merge) {k : Nat}
    (count : (entered b.edges n.id).length = k) (fed : Fed b.edges n) :
    b.freeInput n = .ok ("in" ++ toString (k + 1),
      if k < 2 then b else b.add { n with inputs := pathPorts .input "in" (k + 1) }) := by
  unfold freeInput
  rw [fed.find?_free count]
  by_cases few : k < 2
  · simp only [if_pos few]
    rfl
  · have many : max 2 k = k := by omega
    have length : n.inputs.length = k := by
      rw [fed.inputs, count, many, length_pathPorts]
    have more : n.inputs ++ [grown n] = pathPorts .input "in" (k + 1) := by
      rw [pathPorts_succ, fed.inputs, count, many, grown, length]
    simp only [if_neg few, if_pos merge, more]
    rw [grown, length]
    rfl

theorem freeInput_plain {b grown : Blueprint α} {n : Node α} {p : String} (plain : n.kind ≠ .merge)
    (given : b.freeInput n = .ok (p, grown)) : grown = b := by
  unfold freeInput at given
  rw [if_neg plain] at given
  split at given
  · cases given
    rfl
  · split at given <;> cases given
    rfl

theorem node_eq_ok {b : Blueprint α} {id : String} {n : Node α} :
    b.node id = .ok n ↔ b.nodes.find? id = some n := by
  unfold node
  cases b.nodes.find? id <;> simp

/-- What calls that name no input ports keep, if each node is added once. -/
structure Regular (b : Blueprint α) : Prop where
  named : ∀ id n, b.nodes.find? id = some n → n.id = id
  nodup : b.nodes.keys.Nodup
  known : ∀ e ∈ b.edges, e.target.node ∈ b.nodes.keys
  fed : ∀ id n, b.nodes.find? id = some n → n.kind = .merge → Fed b.edges n

theorem Regular.find?_of_mem {b : Blueprint α} (regular : b.Regular) {n : Node α}
    (node : n ∈ b.build.nodes) : b.nodes.find? n.id = some n := by
  obtain ⟨⟨id, m⟩, entry, rfl⟩ := List.mem_map.1 node
  have found := (Table.mem_entries_iff regular.nodup).1 entry
  exact (regular.named id m found).symm ▸ found

theorem Regular.node?_of_find? {b : Blueprint α} (regular : b.Regular) {id : String} {n : Node α}
    (found : b.nodes.find? id = some n) : b.build.node? id = some n := by
  have node : n ∈ b.build.nodes :=
    List.mem_map_of_mem ((Table.mem_entries_iff regular.nodup).2 found)
  have known : id ∈ b.build.nodeIds := Graph.mem_nodeIds.2 ⟨n, node, regular.named id n found⟩
  obtain ⟨m, found'⟩ := Graph.mem_nodeIds_iff_node?.1 known
  obtain ⟨member, same⟩ := Graph.mem_of_node? found'
  have only := regular.find?_of_mem member
  rw [same, found] at only
  cases only
  exact found'

theorem exists_output? {n : Node α} {port : String} (owned : port ∈ n.outputs.map Port.id) :
    ∃ p, n.output? port = some p := by
  obtain ⟨p, output, rfl⟩ := List.mem_map.1 owned
  rw [← Option.isSome_iff_exists, Node.output?, List.find?_isSome]
  exact ⟨p, output, by simp⟩

/-- Edges are added at the end, and nodes keep their outputs. -/
structure Grows (b b' : Blueprint α) : Prop where
  edges : b.edges <+: b'.edges
  outputs : ∀ id n, b.nodes.find? id = some n →
    ∃ n', b'.nodes.find? id = some n' ∧ n'.outputs = n.outputs

namespace Grows

theorem refl (b : Blueprint α) : Grows b b := ⟨List.prefix_rfl, fun _ n found => ⟨n, found, rfl⟩⟩

theorem trans {b b' b'' : Blueprint α} (first : Grows b b') (second : Grows b' b'') :
    Grows b b'' := by
  refine ⟨first.edges.trans second.edges, fun id n found => ?_⟩
  obtain ⟨n', found, same⟩ := first.outputs id n found
  obtain ⟨n'', found, same'⟩ := second.outputs id n' found
  exact ⟨n'', found, same'.trans same⟩

end Grows

/-- The edge leaves from a port that its source node has. -/
def Leaves (b : Blueprint α) (e : Edge α) : Prop :=
  ∃ n, b.nodes.find? e.source.node = some n ∧ e.source.port ∈ n.outputs.map Port.id

theorem Leaves.mono {b b' : Blueprint α} {e : Edge α} (h : b.Leaves e) (grows : Grows b b') :
    b'.Leaves e := by
  obtain ⟨n, found, port⟩ := h
  obtain ⟨n', found', same⟩ := grows.outputs _ n found
  exact ⟨n', found', same ▸ port⟩

/-- The port that is chosen is one of the source node's. -/
theorem openOutput_none {b : Blueprint α} {source p : String}
    (chosen : b.openOutput source none = .ok p) :
    ∃ n, b.nodes.find? source = some n ∧ p ∈ n.outputs.map Port.id := by
  obtain ⟨n, found, chosen⟩ := except_bind_eq_ok.1 chosen
  refine ⟨n, node_eq_ok.1 found, ?_⟩
  unfold freeOutput at chosen
  split at chosen
  next q free =>
    cases chosen
    exact List.mem_map_of_mem (List.mem_of_find?_eq_some free)
  next =>
    split at chosen
    next q last =>
      cases chosen
      exact List.mem_map_of_mem (List.mem_of_getLast? last)
    next => cases chosen

/-- What choosing an input port comes to: the target may have grown the port, and is as it was apart
from that. A merge gives the port that comes after those which are taken. -/
structure Opened (b grown : Blueprint α) (target input : String) (n n' : Node α) : Prop where
  edges : grown.edges = b.edges
  keys : grown.nodes.keys = b.nodes.keys
  others : ∀ id, target ≠ id → grown.nodes.find? id = b.nodes.find? id
  before : b.nodes.find? target = some n
  after : grown.nodes.find? target = some n'
  named : n'.id = n.id
  outputs : n'.outputs = n.outputs
  merge : n'.kind = .merge → n.kind = .merge ∧
    input = "in" ++ toString ((entered b.edges n.id).length + 1) ∧
    n'.inputs = pathPorts .input "in" (max 2 ((entered b.edges n.id).length + 1))

/-- A merge that grows an input is entered under its id again, where it was. -/
theorem Regular.opened {b grown : Blueprint α} {target input : String} (regular : b.Regular)
    (chosen : b.openInput target none = .ok (input, grown)) :
    ∃ n n', Opened b grown target input n n' := by
  obtain ⟨n, found, chosen⟩ := except_bind_eq_ok.1 chosen
  have found := node_eq_ok.1 found
  have named := regular.named target n found
  by_cases merge : n.kind = .merge
  · have fed := regular.fed target n found merge
    rw [freeInput_merge merge rfl fed] at chosen
    split at chosen <;> cases chosen
    next few =>
      refine ⟨n, n, ⟨rfl, rfl, fun _ _ => rfl, found, found, rfl, rfl, fun _ => ⟨merge, rfl, ?_⟩⟩⟩
      have two : max 2 (entered b.edges n.id).length = max 2 ((entered b.edges n.id).length + 1) := by
        omega
      rw [fed.inputs, ← two]
    next many =>
      let more := pathPorts (α := α) .input "in" ((entered b.edges n.id).length + 1)
      have keys : (b.nodes.insert n.id { n with inputs := more }).keys = b.nodes.keys :=
        Table.keys_insert_of_find? (named ▸ found) _
      refine ⟨n, { n with inputs := more }, ⟨rfl, keys, fun id other => ?_, found, ?_, rfl, rfl,
        fun _ => ⟨merge, rfl, ?_⟩⟩⟩
      · exact (Table.find?_insert ..).trans (if_neg (named ▸ other))
      · exact (Table.find?_insert ..).trans (if_pos named)
      · have beyond : (entered b.edges n.id).length + 1 =
            max 2 ((entered b.edges n.id).length + 1) := by
          omega
        rw [← beyond]
  · have same := freeInput_plain merge chosen
    subst same
    exact ⟨n, n, ⟨rfl, rfl, fun _ _ => rfl, found, found, rfl, rfl, fun other => absurd other merge⟩⟩

section

variable {b done grown : Blueprint α} {w : Wire} {output input : String} {n n' : Node α}

/-- An edge to a merge takes its place among the merge's inputs. -/
theorem Opened.fed (opened : Opened b grown w.target input n n') (fed : Fed b.edges n)
    (merge : n'.kind = .merge) (named : n.id = w.target) :
    Fed (grown.join w output input).edges n' := by
  obtain ⟨_, next, inputs⟩ := opened.merge merge
  have more : entered (grown.join w output input).edges n'.id = entered b.edges n.id ++ [input] := by
    rw [join, opened.edges, entered_snoc, if_pos (by rw [opened.named, named]), opened.named]
  refine ⟨?_, ?_⟩
  · rw [more, inputs, List.length_append, List.length_singleton]
  · rw [more, List.length_append, List.length_singleton, pathIds_succ, ← fed.entered, next]

/-- An edge whose input port is chosen keeps merges fed in order. -/
theorem Regular.after_join (regular : b.Regular) (opened : Opened b grown w.target input n n') :
    (grown.join w output input).Regular := by
  have named := regular.named w.target n opened.before
  refine ⟨fun id m found => ?_, ?_, fun e edge => ?_, fun id m found merge => ?_⟩
  · by_cases same : w.target = id
    · subst same
      cases opened.after.symm.trans found
      exact opened.named.trans named
    · exact regular.named id m ((opened.others id same).symm.trans found)
  · show grown.nodes.keys.Nodup
    rw [opened.keys]
    exact regular.nodup
  · show e.target.node ∈ grown.nodes.keys
    rw [opened.keys]
    rcases List.mem_append.1 edge with old | new
    · exact regular.known e (opened.edges ▸ old)
    · cases List.mem_singleton.1 new
      exact Table.mem_keys_iff.2 ⟨n, opened.before⟩
  · by_cases same : w.target = id
    · subst same
      cases opened.after.symm.trans found
      exact opened.fed (regular.fed _ n opened.before (opened.merge merge).1) merge named
    · have found := (opened.others id same).symm.trans found
      have fed := regular.fed id m found merge
      have unchanged : entered (grown.join w output input).edges m.id = entered b.edges m.id := by
        rw [Blueprint.join, opened.edges, entered_snoc, if_neg, List.append_nil]
        exact fun here => same (here.trans (regular.named id m found))
      exact ⟨by rw [unchanged, fed.inputs], by rw [unchanged]; exact fed.entered⟩

theorem Opened.grows (opened : Opened b grown w.target input n n') :
    Grows b (grown.join w output input) := by
  refine ⟨?_, fun id m found => ?_⟩
  · rw [join, opened.edges]
    exact List.prefix_append _ _
  · by_cases same : w.target = id
    · subst same
      cases opened.before.symm.trans found
      exact ⟨n', opened.after, opened.outputs⟩
    · exact ⟨m, (opened.others id same).trans found, rfl⟩

end

/-- The edges that are new leave from ports that their source nodes have. -/
def Sourced (b b' : Blueprint α) : Prop :=
  ∃ made, b'.edges = b.edges ++ made ∧ ∀ e ∈ made, b'.Leaves e

theorem Sourced.refl (b : Blueprint α) : Sourced b b := ⟨[], by simp, by simp⟩

theorem Sourced.trans {b b' b'' : Blueprint α} (first : Sourced b b') (second : Sourced b' b'')
    (grows : Grows b' b'') : Sourced b b'' := by
  obtain ⟨made, edges, leave⟩ := first
  obtain ⟨more, edges', leave'⟩ := second
  refine ⟨made ++ more, by rw [edges', edges, List.append_assoc], fun e mem => ?_⟩
  rcases List.mem_append.1 mem with old | new
  · exact (leave e old).mono grows
  · exact leave' e new

/-- What edges do to a blueprint that make no node. -/
structure Linked (b b' : Blueprint α) : Prop where
  regular : b'.Regular
  keys : b'.nodes.keys = b.nodes.keys
  grows : Grows b b'

theorem Regular.after_link {b done : Blueprint α} {w : Wire} (regular : b.Regular)
    (untargeted : w.targetPort = none) (made : link w b = .ok () done) :
    Linked b done ∧ (w.sourcePort = none → Sourced b done) := by
  obtain ⟨output, input, grown, left, entered, rfl⟩ := link_ok.1 made
  rw [untargeted] at entered
  obtain ⟨n, n', opened⟩ := regular.opened entered
  refine ⟨⟨regular.after_join opened, opened.keys, opened.grows⟩, fun unsourced => ?_⟩
  rw [unsourced] at left
  refine ⟨[_], by rw [join, opened.edges], fun e mem => ?_⟩
  cases List.mem_singleton.1 mem
  exact Leaves.mono (openOutput_none left) opened.grows

/-- What every edge of a row keeps holds when the row ends, and when it fails. -/
theorem chain_keeps {P : Blueprint α → Prop} (step : ∀ b done source target, P b →
    link { source, target } b = .ok () done → P done) (ids : List String) {b : Blueprint α}
    (first : P b) : P (afterwards (chain ids b)) := by
  induction ids generalizing b with
  | nil => exact first
  | cons source rest ih =>
    cases rest with
    | nil => exact first
    | cons target rest =>
      rw [chain_cons]
      simp only [bind, EStateM.bind]
      cases made : link { source, target } b with
      | ok u done => exact ih (step b done source target first made)
      | error f after =>
        cases link_error made
        exact first

theorem Regular.after_chain {b : Blueprint α} (regular : b.Regular) (ids : List String) :
    Linked b (afterwards (chain ids b)) ∧ Sourced b (afterwards (chain ids b)) := by
  refine chain_keeps (P := fun done => Linked b done ∧ Sourced b done)
    (fun b' done source target first made => ?_) ids ⟨⟨regular, rfl, .refl b⟩, .refl b⟩
  obtain ⟨linked, sourced⟩ := first
  obtain ⟨more, leave⟩ := linked.regular.after_link rfl made
  exact ⟨⟨more.regular, more.keys.trans linked.keys, linked.grows.trans more.grows⟩,
    sourced.trans (leave rfl) more.grows⟩

/-- A new node has no edges yet, so that the inputs of a fresh merge are what its edges need. -/
theorem Regular.after_add {b : Blueprint α} {n : Node α} (regular : b.Regular)
    (new : n.id ∉ b.nodes.keys)
    (default : n.kind = .merge → n.inputs = (NodeKind.merge.ports 2).inputs) :
    (b.add n).Regular ∧ Grows b (b.add n) := by
  have find? (id : String) : (b.add n).nodes.find? id =
      if n.id = id then some n else b.nodes.find? id := Table.find?_insert ..
  have keys : (b.add n).nodes.keys = b.nodes.keys ++ [n.id] :=
    (Table.keys_insert ..).trans (if_neg new)
  have unfed : entered b.edges n.id = [] := by
    rw [entered, List.map_eq_nil_iff, List.filter_eq_nil_iff]
    intro e edge here
    exact new (beq_iff_eq.1 here ▸ regular.known e edge)
  refine ⟨⟨fun id m found => ?_, ?_, fun e edge => ?_, fun id m found merge => ?_⟩, ?_, ?_⟩
  · rw [find?] at found
    split at found
    next same =>
      cases found
      exact same
    next => exact regular.named id m found
  · rw [keys]
    exact nodup_snoc regular.nodup new
  · rw [keys]
    exact List.mem_append_left _ (regular.known e edge)
  · rw [find?] at found
    split at found
    next =>
      cases found
      refine ⟨?_, ?_⟩
      · rw [default merge, add, unfed]
        rfl
      · rw [add, unfed]
        rfl
    next => exact regular.fed id m found merge
  · exact List.prefix_rfl
  · intro id m found
    have other : n.id ≠ id := fun same => new (same ▸ Table.mem_keys_iff.2 ⟨m, found⟩)
    exact ⟨m, (find? id).trans ((if_neg other).trans found), rfl⟩

end Blueprint

end Dungeon
