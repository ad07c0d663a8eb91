import Dungeon.Proofs.Search.Queue
import Mathlib.Data.List.Chain
import Mathlib.Data.List.Nodup
import Mathlib.Data.Nat.Find

/-!
# How far a search goes

A path is the list of the nodes on it, from the source to the target. A search finds the nodes level
by level: after `n` rounds it has found the nodes that a path of at most `n` hops leads to, each of
them once and with a trail that is as short as any path. So the distances are those of shortest paths,
and there is a shortest path to each node that has a distance.
-/

namespace Dungeon

/-- The nodes on a way along `R`, the source first and the target last. -/
structure IsPath {β : Type} (R : β → β → Prop) (source target : β) (path : List β) : Prop where
  first : path.head? = some source
  last : path.getLast? = some target
  chain : path.IsChain R

/-- No path has fewer nodes. -/
structure Shortest {β : Type} (R : β → β → Prop) (source target : β) (path : List β) : Prop where
  isPath : IsPath R source target path
  least : ∀ other, IsPath R source target other → path.length ≤ other.length

namespace IsPath

variable {β : Type} {R S : β → β → Prop} {a b c : β} {path : List β}

theorem refl (a : β) : IsPath R a a [a] := ⟨rfl, rfl, .singleton a⟩

/-- One more hop. -/
theorem snoc (h : IsPath R a b path) (hop : R b c) : IsPath R a c (path ++ [c]) where
  first := by simp [h.first]
  last := List.getLast?_concat
  chain := by
    refine List.isChain_append.2 ⟨h.chain, .singleton c, ?_⟩
    intro x last y first
    have hx : x = b := Option.some.inj (last.symm.trans h.last)
    have hy : y = c := by simpa using first.symm
    rwa [hx, hy]

/-- A path is a single node, or a path and one more hop. -/
theorem cases_last (h : IsPath R a c path) :
    (a = c ∧ path = [a]) ∨ ∃ b before, path = before ++ [c] ∧ IsPath R a b before ∧ R b c := by
  obtain ⟨before, rfl⟩ := List.getLast?_eq_some_iff.1 h.last
  cases nodes : before.getLast? with
  | none =>
    have none_before : before = [] := List.getLast?_eq_none_iff.1 nodes
    subst none_before
    have same : c = a := by simpa using h.first
    exact .inl ⟨same.symm, by rw [same]; rfl⟩
  | some b =>
    have chains := List.isChain_append.1 h.chain
    have hop : R b c := chains.2.2 b nodes c rfl
    have nonempty : before ≠ [] := by
      rintro rfl
      cases nodes
    have first : before.head? = some a := by
      rw [← h.first, List.head?_append_of_ne_nil _ nonempty]
    exact .inr ⟨b, before, rfl, ⟨first, nodes, chains.1⟩, hop⟩

theorem length_pos (h : IsPath R a b path) : 0 < path.length := by
  refine List.length_pos_of_ne_nil ?_
  rintro rfl
  cases h.first

theorem reaches (h : IsPath R a b path) : Relation.ReflTransGen R a b := by
  induction nodes : path.length using Nat.strongRecOn generalizing b path with
  | ind n ih =>
    rcases h.cases_last with ⟨rfl, _⟩ | ⟨b', before, rfl, shorter, hop⟩
    · exact .refl
    · have less : before.length < n := by
        simp only [List.length_append, List.length_singleton] at nodes
        omega
      exact (ih _ less shorter rfl).tail hop

theorem mono (h : IsPath R a b path) (weaker : ∀ x y, R x y → S x y) : IsPath S a b path where
  first := h.first
  last := h.last
  chain := h.chain.imp weaker

end IsPath

theorem exists_isPath_iff {β : Type} {R : β → β → Prop} {a b : β} :
    (∃ path, IsPath R a b path) ↔ Relation.ReflTransGen R a b := by
  constructor
  · rintro ⟨path, h⟩
    exact h.reaches
  · intro h
    induction h with
    | refl => exact ⟨[a], .refl a⟩
    | tail _ hop ih =>
      obtain ⟨path, h⟩ := ih
      exact ⟨_, h.snoc hop⟩

theorem Shortest.length_eq {β : Type} {R : β → β → Prop} {a b : β} {p q : List β}
    (hp : Shortest R a b p) (hq : Shortest R a b q) : p.length = q.length :=
  Nat.le_antisymm (hp.least q hq.isPath) (hq.least p hp.isPath)

theorem IsPath.exists_shortest {β : Type} {R : β → β → Prop} {a b : β} {path : List β}
    (h : IsPath R a b path) : ∃ least, Shortest R a b least := by
  classical
  have some_length : ∃ n, ∃ p, IsPath R a b p ∧ p.length = n := ⟨_, path, h, rfl⟩
  obtain ⟨least, is_path, length⟩ := Nat.find_spec some_length
  refine ⟨least, is_path, fun other another => ?_⟩
  rw [length]
  exact Nat.find_min' some_length ⟨other, another, rfl⟩

namespace Adjacency

/-- What the search knows after `n` rounds. The level is what the last round found. -/
structure Levelled (adj : Adjacency) (source : String) (n : Nat) (level found : List Found) :
    Prop where
  shortest : ∀ f ∈ found, Shortest adj.Leads source f.node f.trail.reverse
  near : ∀ b path, IsPath adj.Leads source b path → path.length ≤ n + 1 →
    b ∈ found.map Found.node
  distinct : (found.map Found.node).Nodup
  inside : level.Sublist found
  far : ∀ f ∈ found, n < f.trail.length → f ∈ level
  length : ∀ f ∈ level, f.trail.length = n + 1

namespace Levelled

variable {adj : Adjacency} {source : String} {n : Nat} {level found : List Found}

theorem first (adj : Adjacency) (source : String) :
    Levelled adj source 0 [⟨source, [source]⟩] [⟨source, [source]⟩] where
  shortest f member := by
    rw [List.mem_singleton.1 member]
    exact ⟨.refl source, fun other h => h.length_pos⟩
  near b path h short := by
    rcases h.cases_last with ⟨same, _⟩ | ⟨c, before, rfl, shorter, _⟩
    · simp [same]
    · have pos := shorter.length_pos
      simp only [List.length_append, List.length_singleton] at short
      omega
  distinct := List.nodup_singleton source
  inside := .refl _
  far f member _ := member
  length f member := by rw [List.mem_singleton.1 member]; rfl

variable (h : Levelled adj source n level found)
include h

/-- The last node but one on a shortest path to a node that is not found yet is in the level. -/
theorem mem_level {b c : String} {before : List String} (path : IsPath adj.Leads source b before)
    (hop : adj.Leads b c) (new : c ∉ found.map Found.node) (short : before.length ≤ n + 1) :
    ∃ g ∈ level, g.node = b ∧ g.trail.length = before.length := by
  obtain ⟨g, member, rfl⟩ := List.mem_map.1 (h.near b before path short)
  have trail := h.shortest g member
  have least := trail.least before path
  have far : n < g.trail.length := by
    by_contra closer
    have path' := trail.isPath.snoc hop
    refine new (h.near c _ path' ?_)
    simp only [List.length_append, List.length_reverse, List.length_singleton]
    omega
  rw [List.length_reverse] at least
  have there : g ∈ level := h.far g member far
  exact ⟨g, there, rfl, by omega⟩

/-- One more round finds the nodes that are one hop farther away. -/
theorem round : Levelled adj source (n + 1) (fresh (found.map Found.node) (adj.reached level))
    (found ++ fresh (found.map Found.node) (adj.reached level)) := by
  have path_to {f : Found} (member : f ∈ fresh (found.map Found.node) (adj.reached level)) :
      IsPath adj.Leads source f.node f.trail.reverse ∧ f.trail.length = n + 2 := by
    obtain ⟨g, hg, hf⟩ := List.mem_flatMap.1 (mem_of_mem_fresh member)
    obtain ⟨c, hop, rfl⟩ := List.mem_map.1 hf
    have path := (h.shortest g (h.inside.subset hg)).isPath.snoc hop
    have length := h.length g hg
    refine ⟨by simpa using path, ?_⟩
    rw [List.length_cons, length]
  refine {
    shortest := ?_, near := ?_, distinct := ?_, inside := ?_, far := ?_, length := ?_ }
  · intro f member
    rcases List.mem_append.1 member with old | new
    · exact h.shortest f old
    · obtain ⟨path, length⟩ := path_to new
      refine ⟨path, fun other another => ?_⟩
      by_contra shorter
      -- A shorter path would have led to the node in an earlier round.
      have seen := h.near f.node other another (by rw [List.length_reverse] at shorter; omega)
      exact not_mem_of_fresh new seen
  · intro c path is_path short
    rw [List.map_append, List.mem_append]
    by_cases old : c ∈ found.map Found.node
    · exact .inl old
    · rcases is_path.cases_last with ⟨rfl, rfl⟩ | ⟨b, before, rfl, shorter, hop⟩
      · exact absurd (h.near _ _ is_path (by simp)) old
      · simp only [List.length_append, List.length_singleton] at short
        obtain ⟨g, hg, rfl, _⟩ := h.mem_level shorter hop old (by omega)
        exact seen_or_fresh (mem_reached hg hop)
  · exact nodup_append_fresh h.distinct _
  · exact List.sublist_append_right _ _
  · intro f member far
    rcases List.mem_append.1 member with old | new
    · have length := h.length f (h.far f old (by omega))
      omega
    · exact new
  · exact fun f member => (path_to member).2

/-- The levels that a search goes through end in a level of this kind. -/
theorem levels (rounds : Nat) :
    ∃ m last, Levelled adj source m last (adj.levels rounds level found) := by
  induction rounds generalizing n level found with
  | zero => exact ⟨n, level, h⟩
  | succ rounds ih =>
    rw [Adjacency.levels]
    split
    next => exact ⟨n, level, h⟩
    next => exact ih h.round

end Levelled

variable {adj : Adjacency} {source target : String}

/-- Each node is found once, with a trail that is as short as any path. -/
theorem levelled_search (adj : Adjacency) (source : String) :
    ∃ n level, Levelled adj source n level (adj.search source) :=
  (Levelled.first adj source).levels _

theorem nodup_search (adj : Adjacency) (source : String) :
    ((adj.search source).map Found.node).Nodup := by
  obtain ⟨n, level, h⟩ := levelled_search adj source
  exact h.distinct

theorem shortest_of_mem_search {f : Found} (h : f ∈ adj.search source) :
    Shortest adj.Leads source f.node f.trail.reverse := by
  obtain ⟨n, level, levelled⟩ := levelled_search adj source
  exact levelled.shortest f h

/-- What is found for a target is a trail to it, if the source reaches it at all. -/
theorem find?_cases (adj : Adjacency) (source target : String) :
    (∃ f ∈ adj.search source, f.node = target ∧ adj.find? source target = some f) ∨
      (¬ Relation.ReflTransGen adj.Leads source target ∧ adj.find? source target = none) := by
  cases found : adj.find? source target with
  | some f =>
    have named : f.node = target := by simpa using List.find?_some found
    exact .inl ⟨f, List.mem_of_find?_eq_some found, named, rfl⟩
  | none =>
    refine .inr ⟨fun reached => ?_, rfl⟩
    obtain ⟨f, member, named⟩ := List.mem_map.1 (mem_search_of_reachable reached)
    have other := List.find?_eq_none.1 found f member
    simp [named] at other

/-- The path that is given is the trail of what is found for the target. -/
theorem trail_of_shortestPath {path : List String}
    (h : adj.shortestPath source target = some path) :
    ∃ f ∈ adj.search source, f.node = target ∧ f.trail.reverse = path := by
  cases key : adj.contains source with
  | false => simp [shortestPath, key] at h
  | true =>
    rw [shortestPath_eq key] at h
    obtain ⟨f, found, same⟩ := Option.map_eq_some_iff.1 h
    have named : f.node = target := by simpa using List.find?_some found
    exact ⟨f, List.mem_of_find?_eq_some found, named, same⟩

/-- The path that is given has as few nodes as any. -/
theorem shortest_of_shortestPath {path : List String}
    (h : adj.shortestPath source target = some path) : Shortest adj.Leads source target path := by
  obtain ⟨f, member, rfl, rfl⟩ := trail_of_shortestPath h
  exact shortest_of_mem_search member

theorem shortestPath_eq_none_iff :
    adj.shortestPath source target = none ↔
      adj.contains source = false ∨ ¬ Relation.ReflTransGen adj.Leads source target := by
  cases key : adj.contains source with
  | false => simp [shortestPath, key]
  | true =>
    rw [shortestPath_eq key]
    rcases adj.find?_cases source target with ⟨f, member, rfl, found⟩ | ⟨unreached, found⟩
    · have reached := reachable_of_mem_search member
      simp [found, reached]
    · simp [found, unreached]

theorem exists_shortestPath_iff (key : adj.contains source = true) :
    (∃ path, adj.shortestPath source target = some path) ↔
      Relation.ReflTransGen adj.Leads source target := by
  rw [← Option.isSome_iff_exists, ← Option.ne_none_iff_isSome, ne_eq, shortestPath_eq_none_iff]
  simp [key]

theorem keys_distances (key : adj.contains source = true) :
    (adj.distances source).keys = (adj.search source).map Found.node := by
  rw [distances_eq key]
  simp [Table.keys, Function.comp_def]

/-- The source has a distance to the nodes that it reaches, and to no others. -/
theorem mem_keys_distances_iff (key : adj.contains source = true) :
    target ∈ (adj.distances source).keys ↔ Relation.ReflTransGen adj.Leads source target := by
  rw [keys_distances key, mem_search_iff]

theorem contains_distances_iff (key : adj.contains source = true) :
    (adj.distances source).contains target = true ↔
      Relation.ReflTransGen adj.Leads source target := by
  rw [← mem_keys_distances_iff key, Table.mem_keys_iff, Table.contains, Option.isSome_iff_exists]

theorem nodup_keys_distances (key : adj.contains source = true) :
    (adj.distances source).keys.Nodup := keys_distances key ▸ nodup_search adj source

/-- The distance of a node is one less than the number of nodes on a shortest path. -/
theorem find?_distances_iff (key : adj.contains source = true) {n : Nat} :
    (adj.distances source).find? target = some n ↔
      ∃ path, Shortest adj.Leads source target path ∧ path.length = n + 1 := by
  rw [← Table.mem_entries_iff (nodup_keys_distances key), distances_eq key]
  constructor
  · intro entry
    obtain ⟨f, member, pair⟩ := List.mem_map.1 entry
    obtain ⟨rfl, rfl⟩ := Prod.mk.inj pair
    have shortest := shortest_of_mem_search member
    have pos := shortest.isPath.length_pos
    refine ⟨_, shortest, ?_⟩
    rw [List.length_reverse] at pos ⊢
    omega
  · rintro ⟨path, shortest, length⟩
    obtain ⟨f, member, rfl⟩ := List.mem_map.1 (mem_search_of_reachable shortest.isPath.reaches)
    have same := shortest.length_eq (shortest_of_mem_search member)
    rw [List.length_reverse] at same
    refine List.mem_map.2 ⟨f, member, ?_⟩
    rw [← same, length, Nat.add_sub_cancel]

/-- Distances and paths are looked for apart and agree. -/
theorem length_of_shortestPath (key : adj.contains source = true) {n : Nat} {path : List String}
    (distance : (adj.distances source).find? target = some n)
    (given : adj.shortestPath source target = some path) : path.length = n + 1 := by
  obtain ⟨least, shortest, length⟩ := (find?_distances_iff key).1 distance
  rw [← length]
  exact (shortest_of_shortestPath given).length_eq shortest

end Adjacency

end Dungeon
