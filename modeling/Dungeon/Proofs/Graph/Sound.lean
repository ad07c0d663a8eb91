import Dungeon.Graph.Validation
import Dungeon.Proofs.Search.Queue
import Dungeon.Proofs.Sorting
import Dungeon.Proofs.Table
import Mathlib.Logic.Relation
import Mathlib.Order.WellFounded

/-!
# What valid graphs satisfy

`Graph.Sound` says without reference to the checks what a run relies on: ids are distinct, edges lead
from output ports to input ports of their nodes, an input port takes one edge, no path comes back to
where it began, and every node is reached from the one start, which no edge leads to. A graph
without errors is sound.
-/

namespace Dungeon

variable {α : Type}

namespace Table

/-- Counting adds up what was counted before and what the list holds. -/
theorem find?_foldl_adjust {κ : Type} [DecidableEq κ] (xs : List κ) (t : Table κ Nat) (k : κ) :
    ((xs.foldl (fun t x => t.adjust x 0 (· + 1)) t).find? k).getD 0 =
      (t.find? k).getD 0 + xs.count k := by
  induction xs generalizing t with
  | nil => rfl
  | cons x rest ih =>
    rw [List.foldl_cons, ih, adjust, find?_insert, List.count_cons]
    by_cases h : x = k
    · subst h; simp; omega
    · simp [h]

theorem find?_counts {κ : Type} [DecidableEq κ] (xs : List κ) (k : κ) :
    ((counts xs).find? k).getD 0 = xs.count k := by
  rw [counts, find?_foldl_adjust, find?_empty]
  simp

end Table

namespace Graph

/-- Where nothing is counted twice, nothing comes twice. -/
theorem nodup_of_repeated_eq_nil {κ : Type} [DecidableEq κ] {le : κ → κ → Bool} {xs : List κ}
    (h : repeated le (Table.counts xs) = []) : xs.Nodup := by
  rw [List.nodup_iff_count]
  intro k
  by_contra many
  have count := Table.find?_counts xs k
  cases found : (Table.counts xs).find? k with
  | none => simp only [found, Option.getD_none] at count; omega
  | some n =>
    simp only [found, Option.getD_some] at count
    have member : (k, n) ∈ repeated le (Table.counts xs) := by
      refine (sortBy_perm _ _).mem_iff.2 (List.mem_filter.2 ⟨Table.mem_of_lookup found, ?_⟩)
      exact decide_eq_true (by omega)
    rw [h] at member
    exact List.not_mem_nil member

/-- An edge leads from the one node to the other. -/
def Feeds (g : Graph α) (a b : String) : Prop :=
  ∃ e ∈ g.edges, e.source.node = a ∧ e.target.node = b

/-- What a run needs of its graph. -/
structure Sound (g : Graph α) : Prop where
  nodes : (g.nodes.map Node.id).Nodup
  edges : (g.edges.map Edge.id).Nodup
  sources : ∀ e ∈ g.edges, ∃ n, g.node? e.source.node = some n ∧ (n.output? e.source.port).isSome
  targets : ∀ e ∈ g.edges, ∃ n, g.node? e.target.node = some n ∧ (n.input? e.target.port).isSome
  ports : (g.edges.map Edge.target).Nodup
  acyclic : WellFounded g.Feeds
  started : ∃ start, g.ofKind .start = [start] ∧ (∀ e ∈ g.edges, e.target.node ≠ start.id) ∧
    ∀ n ∈ g.nodes, Relation.ReflTransGen g.Feeds start.id n.id

theorem mem_of_node? {g : Graph α} {id : String} {n : Node α} (h : g.node? id = some n) :
    n ∈ g.nodes ∧ n.id = id := by
  refine ⟨List.mem_of_find?_eq_some h, ?_⟩
  simpa using List.find?_some h

theorem mem_nodeIds {g : Graph α} {id : String} : id ∈ g.nodeIds ↔ ∃ n ∈ g.nodes, n.id = id := by
  rw [nodeIds, List.mem_eraseDups, List.mem_map]

theorem mem_nodeIds_iff_node? {g : Graph α} {id : String} :
    id ∈ g.nodeIds ↔ ∃ n, g.node? id = some n := by
  rw [mem_nodeIds, ← Option.isSome_iff_exists, node?, List.find?_isSome]
  simp

theorem sourceProblem_eq_none {g : Graph α} {e : Edge α} (h : g.sourceProblem e = none) :
    ∃ n, g.node? e.source.node = some n ∧ (n.output? e.source.port).isSome := by
  unfold sourceProblem at h
  split at h
  next => cases h
  next n found =>
    split at h
    next port => exact ⟨n, found, port⟩
    next => cases h

theorem targetProblem_eq_none {g : Graph α} {e : Edge α} (h : g.targetProblem e = none) :
    ∃ n, g.node? e.target.node = some n ∧ (n.input? e.target.port).isSome := by
  unfold targetProblem at h
  split at h
  next => cases h
  next n found =>
    split at h
    next port => exact ⟨n, found, port⟩
    next => cases h

theorem problems_eq_none {g : Graph α} (h : g.danglingEdges = []) {e : Edge α}
    (he : e ∈ g.edges) : g.sourceProblem e = none ∧ g.targetProblem e = none := by
  have none_left := List.flatMap_eq_nil_iff.1 h e he
  simpa only [List.append_eq_nil_iff, Option.toList_eq_nil_iff] using none_left

theorem resolved_eq_edges {g : Graph α} (h : g.danglingEdges = []) : g.resolved = g.edges := by
  refine List.filter_eq_self.2 fun e he => ?_
  obtain ⟨source, target⟩ := problems_eq_none h he
  simp [source, target]

/-- Nodes that are all fed from among themselves are never peeled. -/
theorem mem_peel_of_fed {edges : List (Edge α)} {rounds : Nat} {ids : List String}
    {s : Set String} (inside : ∀ id ∈ s, id ∈ ids)
    (hfed : ∀ id ∈ s, ∃ e ∈ edges, e.target.node = id ∧ e.source.node ∈ s) :
    ∀ id ∈ s, id ∈ peel edges rounds ids := by
  induction rounds generalizing ids with
  | zero => exact inside
  | succ rounds ih =>
    rw [peel]
    split
    next =>
      refine ih fun id hid => ?_
      obtain ⟨e, he, target, source⟩ := hfed id hid
      refine List.mem_filter.2 ⟨inside id hid, List.any_eq_true.2 ⟨e, he, ?_⟩⟩
      simpa [target] using inside _ source
    next => exact inside

/-- Where nothing is stuck, edges lead nowhere back. -/
theorem acyclic_of_stuck {g : Graph α} {edges : List (Edge α)} (h : g.stuck edges = [])
    (targets : ∀ e ∈ edges, e.target.node ∈ g.nodeIds) :
    WellFounded fun a b => ∃ e ∈ edges, e.source.node = a ∧ e.target.node = b := by
  have peeled : peel edges g.nodeIds.length g.nodeIds = [] := by
    have empty := (sortedTexts_perm (peel edges g.nodeIds.length g.nodeIds)).symm
    unfold stuck at h
    rw [h] at empty
    exact empty.eq_nil
  rw [WellFounded.wellFounded_iff_has_min]
  intro s ⟨id, hid⟩
  by_contra none_least
  -- A set of nodes without a least one is fed from within, so none of it is ever peeled.
  have hfed : ∀ id ∈ s, ∃ e ∈ edges, e.target.node = id ∧ e.source.node ∈ s := by
    intro a ha
    by_contra unfed
    refine none_least ⟨a, ha, fun x hx ⟨e, he, source, target⟩ => unfed ⟨e, he, target, ?_⟩⟩
    rwa [source]
  have inside : ∀ id ∈ s, id ∈ g.nodeIds := by
    intro a ha
    obtain ⟨e, he, target, _⟩ := hfed a ha
    exact target ▸ targets e he
  have left := @mem_peel_of_fed _ edges g.nodeIds.length _ _ inside hfed id hid
  rw [peeled] at left
  exact List.not_mem_nil left

theorem next_foldl_link (edges : List (Edge α)) (adj : Adjacency) (a : String) :
    (edges.foldl (fun adj e => adj.link e.source.node e.target.node) adj).next a =
      adj.next a ++ (edges.filter fun e => e.source.node == a).map fun e => e.target.node := by
  induction edges generalizing adj with
  | nil => simp
  | cons e rest ih =>
    rw [List.foldl_cons, ih, Adjacency.next_link]
    by_cases h : e.source.node = a <;> simp [h]

/-- The neighbours in a search are the nodes that edges lead to. -/
theorem leads_successors {edges : List (Edge α)} {a b : String} :
    (successors edges).Leads a b ↔ ∃ e ∈ edges, e.source.node = a ∧ e.target.node = b := by
  unfold Adjacency.Leads successors
  rw [next_foldl_link]
  simp [Adjacency.next, and_assoc]

theorem feeds_of_mem_reachable {g : Graph α} {start id : String}
    (h : id ∈ reachable g.edges start) : Relation.ReflTransGen g.Feeds start id := by
  exact Relation.ReflTransGen.mono (fun _ _ => leads_successors.1) _ _
    (Adjacency.mem_reachable_iff.1 h)

theorem started_of_startAndOutputs {g : Graph α} (h : g.startAndOutputs g.edges = []) :
    ∃ start, g.ofKind .start = [start] ∧ (∀ e ∈ g.edges, e.target.node ≠ start.id) ∧
      ∀ n ∈ g.nodes, Relation.ReflTransGen g.Feeds start.id n.id := by
  unfold startAndOutputs at h
  rcases only : g.ofKind .start with _ | ⟨start, _ | ⟨second, rest⟩⟩
  · simp [only] at h
  · simp only [only, startProblems, unreachedOutputs, List.append_eq_nil_iff, List.map_eq_nil_iff,
      List.filter_eq_nil_iff] at h
    obtain ⟨⟨⟨inputs, seen⟩, _⟩, seenOutputs⟩ := h
    refine ⟨start, rfl, ?_, ?_⟩
    · intro e he target
      have into : (g.edges.any fun e => e.target.node == start.id) = true :=
        List.any_eq_true.2 ⟨e, he, by simpa using target⟩
      simp [into] at inputs
    · intro n hn
      apply feeds_of_mem_reachable
      by_cases out : n.kind = .output
      · have member : n ∈ g.ofKind .output := List.mem_filter.2 ⟨hn, by simpa using out⟩
        simpa using seenOutputs n member
      · simpa [out] using seen n hn
  · simp [only] at h

/-- A graph without errors is sound. -/
theorem sound_of_errors {g : Graph α} (h : g.errors = []) : g.Sound := by
  simp only [errors, List.append_eq_nil_iff] at h
  obtain ⟨⟨⟨⟨⟨⟨⟨nodes, edges⟩, dangling⟩, _⟩, ports⟩, _⟩, cycles_⟩, started⟩ := h
  rw [resolved_eq_edges dangling] at ports cycles_ started
  have targets : ∀ e ∈ g.edges,
      ∃ n, g.node? e.target.node = some n ∧ (n.input? e.target.port).isSome :=
    fun e he => targetProblem_eq_none (problems_eq_none dangling he).2
  have stuck_ : g.stuck g.edges = [] := by
    unfold cycles at cycles_
    split at cycles_
    next none_stuck => exact none_stuck
    next => cases cycles_
  exact {
    nodes := nodup_of_repeated_eq_nil (List.map_eq_nil_iff.1 nodes)
    edges := nodup_of_repeated_eq_nil (List.map_eq_nil_iff.1 edges)
    sources := fun e he => sourceProblem_eq_none (problems_eq_none dangling he).1
    targets
    ports := nodup_of_repeated_eq_nil (List.map_eq_nil_iff.1 ports)
    acyclic := acyclic_of_stuck stuck_ fun e he =>
      mem_nodeIds_iff_node?.2 ((targets e he).imp fun _ h => h.1)
    started := started_of_startAndOutputs started }

/-- What is accepted has no errors. -/
theorem errors_of_ensureValid {g : Graph α} {r : Report} (h : g.ensureValid = .ok r) :
    g.errors = [] := by
  unfold ensureValid validate at h
  cases found : g.warnings with
  | error f => simp [found, bind, Except.bind] at h
  | ok warnings =>
    simp only [found, bind, Except.bind, pure, Except.pure] at h
    split at h
    next none_found => exact List.isEmpty_iff.1 none_found
    next => cases h

theorem sound_of_ensureValid {g : Graph α} {r : Report} (h : g.ensureValid = .ok r) : g.Sound :=
  sound_of_errors (errors_of_ensureValid h)

end Graph

end Dungeon
