import Dungeon.Proofs.Search.Distance
import Dungeon.Proofs.Sorting

/-!
# Which of the shortest paths is found

Where the neighbours of each node are sorted, the trails of a level are sorted too, so each node is
first reached along the least of its shortest paths in the order of the dictionary. What a search finds
is then settled by which nodes lead to which, however the table was made.
-/

namespace Dungeon

/-- Paths of one length are in order by the first node where they differ. -/
theorem append_lt_append_iff {a b x y : List String} (length : a.length = b.length) :
    a ++ x < b ++ y ↔ a < b ∨ a = b ∧ x < y := by
  induction a generalizing b with
  | nil =>
    have none : b = [] := List.eq_nil_of_length_eq_zero length.symm
    subst none
    simp
  | cons p a ih =>
    cases b with
    | nil => cases length
    | cons q b =>
      have tails := @ih b (Nat.succ.inj length)
      simp only [List.cons_append, List.cons_lt_cons_iff, tails, List.cons.injEq]
      tauto

/-- A shortest path that no other shortest path comes before, by the code points of the nodes. -/
structure Canonical (R : String → String → Prop) (source target : String) (path : List String) :
    Prop extends Shortest R source target path where
  earliest : ∀ other, IsPath R source target other → other.length = path.length → ¬ other < path

namespace Canonical

variable {R S : String → String → Prop} {source target : String} {path path' : List String}

/-- There is only one such path. -/
theorem eq (h : Canonical R source target path) (h' : Canonical R source target path') :
    path = path' := by
  have length := h.toShortest.length_eq h'.toShortest
  have not_after : ¬ path' < path := h.earliest path' h'.isPath length.symm
  have not_before : ¬ path < path' := h'.earliest path h.isPath length
  exact List.le_antisymm not_after not_before

/-- Only the relation counts. -/
theorem congr (h : Canonical R source target path) (same : ∀ a b, R a b ↔ S a b) :
    Canonical S source target path where
  isPath := h.isPath.mono fun a b => (same a b).1
  least other is_path := h.least other (is_path.mono fun a b => (same a b).2)
  earliest other is_path := h.earliest other (is_path.mono fun a b => (same a b).2)

end Canonical

namespace Adjacency

/-- The neighbours of each node are sorted. -/
def Sorted (adj : Adjacency) : Prop := ∀ a, (adj.next a).Pairwise (· ≤ ·)

theorem fresh_sublist (seen : List String) (fs : List Found) : (fresh seen fs).Sublist fs := by
  induction fs generalizing seen with
  | nil => exact .slnil
  | cons f rest ih =>
    rw [fresh]
    split
    · exact (ih seen).cons f
    · exact (ih _).cons_cons f

/-- Of the ways to one node the first is taken. -/
theorem fresh_first {R : Found → Found → Prop} {seen : List String} {fs : List Found}
    (ordered : fs.Pairwise R) {f g : Found} (hf : f ∈ fresh seen fs) (hg : g ∈ fs)
    (same : g.node = f.node) : f = g ∨ R f g := by
  induction fs generalizing seen with
  | nil => cases hg
  | cons k rest ih =>
    obtain ⟨before, ordered⟩ := List.pairwise_cons.1 ordered
    rw [fresh] at hf
    split at hf
    next old =>
      rcases List.mem_cons.1 hg with rfl | hg
      · have seen_before : f.node ∈ seen := by simpa [same] using old
        exact absurd seen_before (not_mem_of_fresh hf)
      · exact ih ordered hf hg
    next =>
      rcases List.mem_cons.1 hf with rfl | hf
      · rcases List.mem_cons.1 hg with rfl | hg
        · exact .inl rfl
        · exact .inr (before g hg)
      · rcases List.mem_cons.1 hg with rfl | hg
        · exact absurd (by simp [same]) (not_mem_of_fresh hf)
        · exact ih ordered hf hg

/-- The first trail does not come after the second one. -/
def Precedes (f g : Found) : Prop := ¬ g.trail.reverse < f.trail.reverse

/-- The trails of a level are in order, and all trails so far are canonical. -/
structure Ordered (adj : Adjacency) (source : String) (level found : List Found) : Prop where
  level : level.Pairwise Precedes
  canonical : ∀ f ∈ found, Canonical adj.Leads source f.node f.trail.reverse

variable {adj : Adjacency} {source target : String} {n : Nat} {level found : List Found}

theorem Ordered.first (adj : Adjacency) (source : String) :
    Ordered adj source [⟨source, [source]⟩] [⟨source, [source]⟩] where
  level := List.pairwise_singleton _ _
  canonical f member := by
    rw [List.mem_singleton.1 member]
    refine ⟨⟨.refl source, fun other h => h.length_pos⟩, fun other h length => ?_⟩
    rcases h.cases_last with ⟨_, rfl⟩ | ⟨b, before, rfl, shorter, _⟩
    · exact List.lt_irrefl _
    · have pos := shorter.length_pos
      have one : before.length + 1 = 1 := by simpa using length
      omega

/-- Sorted neighbours behind sorted trails are sorted trails. -/
theorem Ordered.reached (h : Ordered adj source level found) (sorted : adj.Sorted)
    (levelled : Levelled adj source n level found) : (adj.reached level).Pairwise Precedes := by
  have distinct : (level.map Found.node).Nodup := levelled.distinct.sublist (levelled.inside.map _)
  refine List.pairwise_flatMap.2 ⟨fun f member => ?_, ?_⟩
  · refine List.pairwise_map.2 ((sorted f.node).imp fun {b c} le => ?_)
    have last : ¬ c < b := String.not_lt.2 le
    rw [Precedes, List.reverse_cons, List.reverse_cons, append_lt_append_iff rfl]
    simpa [List.cons_lt_cons_iff] using last
  · refine List.Pairwise.imp_of_mem ?_ (h.level.and (List.pairwise_map.1 distinct))
    rintro f g hf hg ⟨precedes, other⟩ x hx y hy
    obtain ⟨b, _, rfl⟩ := List.mem_map.1 hx
    obtain ⟨c, _, rfl⟩ := List.mem_map.1 hy
    have length : g.trail.reverse.length = f.trail.reverse.length := by
      rw [List.length_reverse, List.length_reverse, levelled.length f hf, levelled.length g hg]
    -- Different nodes have different trails, so the trails decide.
    have apart : g.trail.reverse ≠ f.trail.reverse := by
      intro same
      have hf' := (h.canonical f (levelled.inside.subset hf)).isPath.last
      have hg' := (h.canonical g (levelled.inside.subset hg)).isPath.last
      rw [same, hf'] at hg'
      exact other (Option.some.inj hg')
    rw [Precedes, List.reverse_cons, List.reverse_cons, append_lt_append_iff length]
    rintro (less | ⟨same, _⟩)
    · exact precedes less
    · exact apart same

/-- One more round keeps the trails in order. -/
theorem Ordered.round (h : Ordered adj source level found) (sorted : adj.Sorted)
    (levelled : Levelled adj source n level found) :
    Ordered adj source (Adjacency.fresh (found.map Found.node) (adj.reached level))
      (found ++ Adjacency.fresh (found.map Found.node) (adj.reached level)) := by
  have reached := h.reached sorted levelled
  have next := levelled.round
  refine ⟨reached.sublist (fresh_sublist _ _), fun f member => ?_⟩
  rcases List.mem_append.1 member with old | new
  · exact h.canonical f old
  · refine ⟨next.shortest f member, fun other is_path length => ?_⟩
    have unseen := not_mem_of_fresh new
    have long := next.length f new
    rw [List.length_reverse, long] at length
    rcases is_path.cases_last with ⟨same, _⟩ | ⟨b, before, rfl, shorter, hop⟩
    · have here : source ∈ found.map Found.node :=
        levelled.near source [source] (.refl source) (Nat.le_add_left 1 n)
      exact absurd (same ▸ here) unseen
    · rw [List.length_append, List.length_singleton] at length
      obtain ⟨g, hg, rfl, trail⟩ := levelled.mem_level shorter hop unseen (by omega)
      have canonical := h.canonical g (levelled.inside.subset hg)
      have front : ¬ before < g.trail.reverse :=
        canonical.earliest before shorter (by rw [List.length_reverse, trail])
      have whole : ¬ before ++ [f.node] < g.trail.reverse ++ [f.node] := by
        rw [append_lt_append_iff (by rw [List.length_reverse, trail])]
        rintro (less | ⟨_, less⟩)
        · exact front less
        · exact List.lt_irrefl _ less
      rcases fresh_first reached new (mem_reached hg hop) rfl with same | precedes
      · rw [same, List.reverse_cons]
        exact whole
      · rw [Precedes, List.reverse_cons] at precedes
        exact List.le_trans precedes whole

/-- The levels that a search goes through keep the trails in order. -/
theorem Ordered.levels (h : Ordered adj source level found) (sorted : adj.Sorted)
    (levelled : Levelled adj source n level found) (rounds : Nat) :
    ∃ last, Ordered adj source last (adj.levels rounds level found) := by
  induction rounds generalizing n level found with
  | zero => exact ⟨level, h⟩
  | succ rounds ih =>
    rw [Adjacency.levels]
    split
    next => exact ⟨level, h⟩
    next => exact ih (h.round sorted levelled) levelled.round

theorem ordered_search (sorted : adj.Sorted) (source : String) :
    ∃ level, Ordered adj source level (adj.search source) :=
  (Ordered.first adj source).levels sorted (.first adj source) _

/-- With sorted neighbours the path that is given is the canonical one. -/
theorem canonical_of_shortestPath (sorted : adj.Sorted) {path : List String}
    (h : adj.shortestPath source target = some path) : Canonical adj.Leads source target path := by
  obtain ⟨level, ordered⟩ := ordered_search sorted source
  obtain ⟨f, member, rfl, rfl⟩ := trail_of_shortestPath h
  exact ordered.canonical f member

theorem shortestPath_eq_some_iff (sorted : adj.Sorted) {path : List String} :
    adj.shortestPath source target = some path ↔
      adj.contains source = true ∧ Canonical adj.Leads source target path := by
  constructor
  · intro h
    have key : adj.contains source = true := by
      by_contra no_key
      simp [shortestPath, no_key] at h
    exact ⟨key, canonical_of_shortestPath sorted h⟩
  · rintro ⟨key, canonical⟩
    obtain ⟨found, given⟩ := (exists_shortestPath_iff key).2 canonical.isPath.reaches
    have same := canonical.eq (canonical_of_shortestPath sorted given)
    rw [given, same]

/-- Searches of tables with the same keys, in which the same nodes lead to the same, give the same. -/
theorem shortestPath_congr {adj' : Adjacency} (sorted : adj.Sorted) (sorted' : adj'.Sorted)
    (keys : adj.contains source = adj'.contains source)
    (leads : ∀ a b, adj.Leads a b ↔ adj'.Leads a b) :
    adj.shortestPath source target = adj'.shortestPath source target := by
  refine Option.ext fun path => ?_
  rw [shortestPath_eq_some_iff sorted, shortestPath_eq_some_iff sorted', keys]
  refine and_congr_right fun _ => ⟨fun h => h.congr leads, fun h => h.congr fun a b => ?_⟩
  exact (leads a b).symm

end Adjacency

end Dungeon
