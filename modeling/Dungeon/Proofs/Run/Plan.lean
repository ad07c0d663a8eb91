import Dungeon.Proofs.Graph.Sound
import Dungeon.Proofs.Run.Ledger
import Mathlib.Data.List.Nodup

/-!
# Plans of sound graphs

In a sound graph an id names one node, so what a plan looks up under an id is what the node of that
id says. Edges into a node come to different places among its ports, and the start is the only root.
-/

namespace Dungeon

variable {α : Type}

theorem findSome?_of_unique {β γ : Type} {xs : List β} {f : β → Option γ} {x : β} (mem : x ∈ xs)
    (only : ∀ y ∈ xs, y ≠ x → f y = none) : xs.findSome? f = f x := by
  induction xs with
  | nil => cases mem
  | cons y rest ih =>
    rw [List.findSome?_cons]
    by_cases same : y = x
    · subst same
      cases found : f y with
      | some v => rfl
      | none =>
        refine List.findSome?_eq_none_iff.2 fun z hz => ?_
        by_cases again : z = y
        · rw [again, found]
        · exact only z (List.mem_cons_of_mem _ hz) again
    · rw [only y List.mem_cons_self same]
      have mem_rest : x ∈ rest := by simpa [Ne.symm same] using mem
      exact ih mem_rest fun z hz => only z (List.mem_cons_of_mem _ hz)

theorem eraseDups_of_nodup {β : Type} [BEq β] [LawfulBEq β] {xs : List β} (nodup : xs.Nodup) :
    xs.eraseDups = xs := by
  induction xs with
  | nil => rfl
  | cons x rest ih =>
    obtain ⟨new, nodup⟩ := List.nodup_cons.1 nodup
    have kept : (rest.filter fun y => !y == x) = rest := by
      refine List.filter_eq_self.2 fun y hy => ?_
      have different : y ≠ x := fun same => new (same ▸ hy)
      simpa using different
    rw [List.eraseDups_cons, kept, ih nodup]

namespace Plan

theorem checkEdges_eq_ok {g : Graph α} {edges : List (Edge α)}
    (h : ∀ e ∈ edges, e.source.node ∈ g.nodeIds ∧ e.target.node ∈ g.nodeIds) :
    checkEdges g edges = .ok () := by
  have there {id : String} (h : id ∈ g.nodeIds) : checkNode g id = .ok () := by
    obtain ⟨n, found⟩ := Graph.mem_nodeIds_iff_node?.1 h
    simp [checkNode, found]
  induction edges with
  | nil => rfl
  | cons e rest ih =>
    obtain ⟨source, target⟩ := h e List.mem_cons_self
    rw [checkEdges, there source, there target]
    exact ih fun f hf => h f (List.mem_cons_of_mem _ hf)

/-- A port that is there has an index. -/
theorem lastIndex?_of_mem {ports : List (Port α)} {q : Port α} (mem : q ∈ ports) :
    ∃ i, lastIndex? ports q.id = some i := by
  obtain ⟨i, at_i⟩ := List.mem_iff_getElem?.1 mem
  have listed : (q, i) ∈ ports.zipIdx.reverse :=
    List.mem_reverse.2 (List.mk_mem_zipIdx_iff_getElem?.2 at_i)
  have found : (ports.zipIdx.reverse.find? fun p => p.1.id == q.id).isSome :=
    List.find?_isSome.2 ⟨(q, i), listed, by simp⟩
  obtain ⟨r, found⟩ := Option.isSome_iff_exists.1 found
  exact ⟨r.2, by rw [lastIndex?, found, Option.map_some]⟩

/-- Different port ids have different indices. -/
theorem lastIndex?_inj {ports : List (Port α)} {a b : String} {i : Nat}
    (ha : lastIndex? ports a = some i) (hb : lastIndex? ports b = some i) : a = b := by
  have named {id : String} (h : lastIndex? ports id = some i) :
      ∃ q, ports[i]? = some q ∧ q.id = id := by
    obtain ⟨⟨q, j⟩, found, index⟩ := Option.map_eq_some_iff.1 h
    have listed := List.mem_reverse.1 (List.mem_of_find?_eq_some found)
    have called := List.find?_some found
    cases index
    exact ⟨q, List.mk_mem_zipIdx_iff_getElem?.1 listed, by simpa using called⟩
  obtain ⟨q, at_q, rfl⟩ := named ha
  obtain ⟨r, at_r, rfl⟩ := named hb
  rw [at_q] at at_r
  cases at_r
  rfl

end Plan

/-- What the node waits for, if it is a merge. -/
def Node.strategy? (n : Node α) : Option MergeStrategy :=
  match n.data with
  | .merge d => some (d.strategy.getD .all)
  | _ => none

theorem Node.kind_of_strategy? {n : Node α} {s : MergeStrategy} (h : n.strategy? = some s) :
    n.kind ≠ .start := by
  intro start
  unfold Node.strategy? at h
  unfold Node.kind at start
  split at h
  next data => simp [data, NodeData.kind] at start
  next => cases h

theorem Plan.firesEarly_iff {p : Plan α} {id : String} :
    p.firesEarly id = true ↔ p.strategy? id = some .any ∨ p.strategy? id = some .first := by
  unfold firesEarly
  split <;> simp_all

/-- Only nodes of the graph have a strategy. -/
theorem Plan.node_of_strategy? {p : Plan α} {id : String} {s : MergeStrategy}
    (h : p.strategy? id = some s) : ∃ n ∈ p.graph.nodes, n.id = id := by
  obtain ⟨n, mem, found⟩ := List.exists_of_findSome?_eq_some h
  refine ⟨n, List.mem_reverse.1 mem, ?_⟩
  split at found
  next =>
    split at found
    next same => exact same
    next => cases found
  next => cases found

namespace Graph.Sound

variable {g : Graph α} (sound : g.Sound)
include sound

/-- Ids tell nodes apart. -/
theorem node_inj {m n : Node α} (hm : m ∈ g.nodes) (hn : n ∈ g.nodes) (same : m.id = n.id) :
    m = n :=
  List.inj_on_of_nodup_map sound.nodes hm hn same

theorem node?_iff {id : String} {n : Node α} : g.node? id = some n ↔ n ∈ g.nodes ∧ n.id = id := by
  refine ⟨mem_of_node?, ?_⟩
  rintro ⟨mem, rfl⟩
  obtain ⟨m, found⟩ := mem_nodeIds_iff_node?.1 (mem_nodeIds.2 ⟨n, mem, rfl⟩)
  obtain ⟨mem', same⟩ := mem_of_node? found
  rw [found, sound.node_inj mem' mem same]

theorem nodeIds_eq : g.nodeIds = g.nodes.map Node.id := eraseDups_of_nodup sound.nodes

theorem nodup_nodeIds : g.nodeIds.Nodup := sound.nodeIds_eq ▸ sound.nodes

variable {n : Node α} (node : n ∈ g.nodes) (retries : Value α)
include node

/-- Of a look-up through all nodes only the node of the id counts. -/
theorem findSome?_node {β : Type} {f : Node α → Option β}
    (other : ∀ m : Node α, m.id ≠ n.id → f m = none) : g.nodes.reverse.findSome? f = f n := by
  refine findSome?_of_unique (List.mem_reverse.2 node) fun m hm different => other m fun same => ?_
  exact different (sound.node_inj (List.mem_reverse.1 hm) node same)

theorem inputIndex?_eq (port : String) :
    Plan.inputIndex? ⟨g, retries⟩ ⟨n.id, port⟩ = Plan.lastIndex? n.inputs port := by
  unfold Plan.inputIndex? Plan.indexOf?
  rw [sound.findSome?_node node fun m different => if_neg different, if_pos rfl]

theorem strategy?_eq : Plan.strategy? ⟨g, retries⟩ n.id = n.strategy? := by
  unfold Plan.strategy? Node.strategy?
  rw [sound.findSome?_node node fun m different => ?_]
  · cases n.data <;> simp
  · cases m.data <;> simp [different]

omit node

theorem strategy?_of_node? {id : String} {n : Node α} (node : g.node? id = some n)
    (retries : Value α) : Plan.strategy? ⟨g, retries⟩ id = n.strategy? := by
  obtain ⟨mem, rfl⟩ := mem_of_node? node
  exact sound.strategy?_eq mem retries

theorem closed : Plan.Closed ⟨g, retries⟩ where
  distinct := sound.nodup_nodeIds
  sources e he := mem_nodeIds_iff_node?.2 ((sound.sources e he).imp fun _ h => h.1)
  targets e he := mem_nodeIds_iff_node?.2 ((sound.targets e he).imp fun _ h => h.1)
  ports e he := by
    obtain ⟨n, found, port⟩ := sound.targets e he
    obtain ⟨mem, same⟩ := mem_of_node? found
    obtain ⟨q, input⟩ := Option.isSome_iff_exists.1 port
    have called : q.id = e.target.port := by simpa using List.find?_some input
    obtain ⟨i, index⟩ := Plan.lastIndex?_of_mem (List.mem_of_find?_eq_some input)
    refine ⟨i, ?_⟩
    have target : e.target = ⟨n.id, q.id⟩ := by rw [same, called]
    rw [target, sound.inputIndex?_eq mem, index]

/-- Edges into one node come to different places among its ports. -/
theorem edge_eq_of_inputIndex? {e f : Edge α} (he : e ∈ g.edges) (hf : f ∈ g.edges)
    (same : e.target.node = f.target.node)
    (index : Plan.inputIndex? ⟨g, retries⟩ e.target = Plan.inputIndex? ⟨g, retries⟩ f.target) :
    e = f := by
  obtain ⟨i, at_e⟩ := (sound.closed retries).ports e he
  have at_f := index ▸ at_e
  obtain ⟨n, found, _⟩ := sound.targets e he
  obtain ⟨mem, named⟩ := mem_of_node? found
  have split_e : e.target = ⟨n.id, e.target.port⟩ := by rw [named]
  have split_f : f.target = ⟨n.id, f.target.port⟩ := by rw [named, same]
  rw [split_e, sound.inputIndex?_eq mem] at at_e
  rw [split_f, sound.inputIndex?_eq mem] at at_f
  have ports := Plan.lastIndex?_inj at_e at_f
  have targets : e.target = f.target := by rw [split_e, split_f, ports]
  exact List.inj_on_of_nodup_map sound.ports he hf targets

omit sound in
/-- The plan of a graph that was accepted. -/
theorem plan_of_ensureValid {r : Report} (valid : g.ensureValid = .ok r) :
    Plan.ofValid g retries = .ok ⟨g, retries⟩ := by
  have closed := (sound_of_ensureValid valid).closed retries
  have checked : Plan.checkEdges g g.edges = .ok () :=
    Plan.checkEdges_eq_ok fun e he => ⟨closed.sources e he, closed.targets e he⟩
  rw [Plan.ofValid, valid]
  show Plan.ofGraph g retries = _
  rw [Plan.ofGraph, checked]
  rfl

omit sound in
theorem inDegree_eq_zero {id : String} :
    Plan.inDegree ⟨g, retries⟩ id = 0 ↔ ∀ e ∈ g.edges, e.target.node ≠ id := by
  simp [Plan.inDegree, List.countP_eq_zero]

/-- Edges lead to every node but the start. -/
theorem inDegree_eq_zero_iff_start {n : Node α} (node : n ∈ g.nodes) :
    Plan.inDegree ⟨g, retries⟩ n.id = 0 ↔ n.kind = .start := by
  obtain ⟨start, only, free, reached⟩ := sound.started
  have mem_start : start ∈ g.nodes ∧ (start.kind == .start) = true :=
    List.mem_filter.1 (only ▸ List.mem_singleton_self start : start ∈ g.ofKind .start)
  rw [inDegree_eq_zero]
  constructor
  · intro unfed
    rcases Relation.ReflTransGen.cases_tail (reached n node) with same | ⟨_, _, e, he, _, target⟩
    · rw [sound.node_inj node mem_start.1 same]
      simpa using mem_start.2
    · exact absurd target (unfed e he)
  · intro kind
    have mem : n ∈ g.ofKind .start := List.mem_filter.2 ⟨node, by simpa using kind⟩
    rw [only, List.mem_singleton] at mem
    rw [mem]
    exact free

theorem inDegree_ne_zero {n : Node α} (node : n ∈ g.nodes) (working : n.kind ≠ .start) :
    Plan.inDegree ⟨g, retries⟩ n.id ≠ 0 :=
  mt (sound.inDegree_eq_zero_iff_start retries node).1 working

end Graph.Sound

end Dungeon
