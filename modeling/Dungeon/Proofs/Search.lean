import Dungeon.Proofs.Table
import Dungeon.Search
import Mathlib.Data.List.Perm.Subperm
import Mathlib.Logic.Relation

/-!
# What a search finds

A search can go level by level instead of node by node; then each node that is found carries its trail
back to the source. Such a search finds the nodes that the source reaches along neighbours, and no
others. Each round but the last is started by a node with neighbours that started none before, so there
are as many rounds as needed.
-/

namespace Dungeon.Adjacency

/-- A node that was found, and the way back: the node itself first, the source last. -/
structure Found where
  node : String
  trail : List String

/-- The first occurrences of nodes that were not seen before. -/
def fresh (seen : List String) : List Found → List Found
  | [] => []
  | f :: rest =>
    if seen.contains f.node then fresh seen rest else f :: fresh (f.node :: seen) rest

/-- The neighbours of a level, each behind the trail of the node it was reached from. -/
def reached (adj : Adjacency) (level : List Found) : List Found :=
  level.flatMap fun f => (adj.next f.node).map fun n => ⟨n, n :: f.trail⟩

/-- Go on from a level until nothing new is found, for at most `rounds` levels. -/
def levels (adj : Adjacency) : Nat → List Found → List Found → List Found
  | 0, _, found => found
  | rounds + 1, level, found =>
    match fresh (found.map Found.node) (adj.reached level) with
    | [] => found
    | new => levels adj rounds new (found ++ new)

/-- All nodes that the source reaches, level by level. Every level but the last holds a node with
neighbours, which bounds their number. -/
def search (adj : Adjacency) (source : String) : List Found :=
  adj.levels (adj.entries.length + 1) [⟨source, [source]⟩] [⟨source, [source]⟩]

def find? (adj : Adjacency) (source target : String) : Option Found :=
  (adj.search source).find? (·.node == target)

/-- Nothing that was seen before is fresh. -/
theorem not_mem_of_fresh {seen : List String} {fs : List Found} {f : Found}
    (h : f ∈ fresh seen fs) : f.node ∉ seen := by
  induction fs generalizing seen with
  | nil => simp [fresh] at h
  | cons g rest ih =>
    rw [fresh] at h
    split at h
    · exact ih h
    · rename_i hg
      rcases List.mem_cons.1 h with rfl | h
      · simpa using hg
      · exact fun hf => ih h (List.mem_cons_of_mem _ hf)

/-- The neighbours of a node as a relation. -/
def Leads (adj : Adjacency) (a b : String) : Prop := b ∈ adj.next a

theorem next_link (adj : Adjacency) (a b c : String) :
    (adj.link a b).next c = if a = c then adj.next c ++ [b] else adj.next c := by
  unfold link Table.adjust next
  rw [Table.find?_insert]
  by_cases h : a = c
  · subst h; simp
  · simp [h]

theorem mem_of_mem_fresh {seen : List String} {fs : List Found} {f : Found}
    (h : f ∈ fresh seen fs) : f ∈ fs := by
  induction fs generalizing seen with
  | nil => simp [fresh] at h
  | cons g rest ih =>
    rw [fresh] at h
    split at h
    · exact List.mem_cons_of_mem _ (ih h)
    · rcases List.mem_cons.1 h with rfl | h
      · exact List.mem_cons_self
      · exact List.mem_cons_of_mem _ (ih h)

theorem leads_of_mem_reached {adj : Adjacency} {level : List Found} {f : Found}
    (h : f ∈ adj.reached level) : ∃ g ∈ level, adj.Leads g.node f.node := by
  obtain ⟨g, hg, h⟩ := List.mem_flatMap.1 h
  obtain ⟨n, hn, rfl⟩ := List.mem_map.1 h
  exact ⟨g, hg, hn⟩

/-- One more level stays within what the source reaches, and so does the whole search. -/
theorem reachable_of_mem_levels {adj : Adjacency} {source : String} {rounds : Nat}
    {level found : List Found} {f : Found}
    (hl : ∀ g ∈ level, Relation.ReflTransGen adj.Leads source g.node)
    (hf : ∀ g ∈ found, Relation.ReflTransGen adj.Leads source g.node)
    (h : f ∈ adj.levels rounds level found) :
    Relation.ReflTransGen adj.Leads source f.node := by
  induction rounds generalizing level found with
  | zero => exact hf f h
  | succ rounds ih =>
    rw [levels] at h
    split at h
    next => exact hf f h
    next =>
      have hnew : ∀ g ∈ fresh (found.map Found.node) (adj.reached level),
          Relation.ReflTransGen adj.Leads source g.node := by
        intro g hg
        obtain ⟨k, hk, step⟩ := leads_of_mem_reached (mem_of_mem_fresh hg)
        exact (hl k hk).tail step
      refine ih hnew ?_ h
      intro g hg
      rcases List.mem_append.1 hg with hg | hg
      · exact hf g hg
      · exact hnew g hg

theorem reachable_of_mem_search {adj : Adjacency} {source : String} {f : Found}
    (h : f ∈ adj.search source) : Relation.ReflTransGen adj.Leads source f.node := by
  have base : ∀ g ∈ [(⟨source, [source]⟩ : Found)],
      Relation.ReflTransGen adj.Leads source g.node := by
    intro g hg
    rw [List.mem_singleton.1 hg]
  exact reachable_of_mem_levels base base h

theorem seen_or_fresh {seen : List String} {fs : List Found} {f : Found} (h : f ∈ fs) :
    f.node ∈ seen ∨ f.node ∈ (fresh seen fs).map Found.node := by
  induction fs generalizing seen with
  | nil => cases h
  | cons g rest ih =>
    rw [fresh]
    split
    next old =>
      rcases List.mem_cons.1 h with rfl | h
      · exact .inl (by simpa using old)
      · exact ih h
    next =>
      rcases List.mem_cons.1 h with rfl | h
      · exact .inr (by simp)
      · rcases @ih (g.node :: seen) h with old | new
        · rcases List.mem_cons.1 old with same | old
          · exact .inr (by simp [same])
          · exact .inl old
        · exact .inr (List.mem_cons_of_mem _ new)

theorem mem_reached {adj : Adjacency} {level : List Found} {f : Found} {n : String}
    (h : f ∈ level) (leads : adj.Leads f.node n) : ⟨n, n :: f.trail⟩ ∈ adj.reached level :=
  List.mem_flatMap.2 ⟨f, h, List.mem_map.2 ⟨n, leads, rfl⟩⟩

theorem mem_keys_of_leads {adj : Adjacency} {a b : String} (h : adj.Leads a b) : a ∈ adj.keys := by
  rw [Table.mem_keys_iff]
  cases found : Table.find? adj a with
  | some v => exact ⟨v, rfl⟩
  | none => simp [Leads, next, found] at h

theorem mem_levels_of_mem {adj : Adjacency} {rounds : Nat} {level found : List Found} {f : Found}
    (h : f ∈ found) : f ∈ adj.levels rounds level found := by
  induction rounds generalizing level found with
  | zero => exact h
  | succ rounds ih =>
    rw [levels]
    split
    next => exact h
    next => exact ih (List.mem_append_left _ h)

/-- What holds before each round. The nodes in `spent` have each started a round. -/
structure Searched (adj : Adjacency) (level found : List Found) (spent : List String) : Prop where
  inside : ∀ f ∈ level, f ∈ found
  closed : ∀ f ∈ found, f ∈ level ∨ ∀ n, adj.Leads f.node n → n ∈ found.map Found.node
  distinct : spent.Nodup
  keys : spent ⊆ adj.keys
  before : ∀ id ∈ spent, id ∈ found.map Found.node
  fresh : ∀ f ∈ level, f.node ∉ spent

/-- One more round is started by a node of the level that has neighbours. -/
theorem Searched.round {adj : Adjacency} {level found : List Found} {spent : List String}
    (h : Searched adj level found spent)
    (some_new : Adjacency.fresh (found.map Found.node) (adj.reached level) ≠ []) :
    ∃ id, Searched adj (Adjacency.fresh (found.map Found.node) (adj.reached level))
      (found ++ Adjacency.fresh (found.map Found.node) (adj.reached level)) (id :: spent) := by
  obtain ⟨f, _, new⟩ := List.exists_cons_of_ne_nil some_new
  have member : f ∈ Adjacency.fresh (found.map Found.node) (adj.reached level) := by simp [new]
  obtain ⟨g, hg, leads⟩ := leads_of_mem_reached (mem_of_mem_fresh member)
  have old : g.node ∈ found.map Found.node := List.mem_map_of_mem (h.inside g hg)
  refine ⟨g.node, {
    inside := fun f hf => List.mem_append_right _ hf
    closed := ?_
    distinct := List.nodup_cons.2 ⟨h.fresh g hg, h.distinct⟩
    keys := List.cons_subset.2 ⟨mem_keys_of_leads leads, h.keys⟩
    before := ?_
    fresh := ?_ }⟩
  · intro f hf
    rcases List.mem_append.1 hf with hf | hf
    · right
      intro n leads
      rw [List.map_append]
      rcases h.closed f hf with last | closed
      · exact List.mem_append.2 (seen_or_fresh (mem_reached last leads))
      · exact List.mem_append_left _ (closed n leads)
    · exact .inl hf
  · intro id hid
    rw [List.map_append]
    rcases List.mem_cons.1 hid with rfl | hid
    · exact List.mem_append_left _ old
    · exact List.mem_append_left _ (h.before id hid)
  · intro f hf spent_before
    rcases List.mem_cons.1 spent_before with same | spent_before
    · exact not_mem_of_fresh hf (same ▸ old)
    · exact not_mem_of_fresh hf (h.before _ spent_before)

/-- With as many rounds as there are keys left, the search stops at a closed set of nodes. -/
theorem Searched.closed_levels {adj : Adjacency} {rounds : Nat} {level found : List Found}
    {spent : List String} (h : Searched adj level found spent)
    (enough : adj.keys.length < rounds + spent.length) {f : Found}
    (hf : f ∈ adj.levels rounds level found) {n : String} (leads : adj.Leads f.node n) :
    n ∈ (adj.levels rounds level found).map Found.node := by
  induction rounds generalizing level found spent with
  | zero =>
    have within := (h.distinct.subperm h.keys).length_le
    omega
  | succ rounds ih =>
    rw [levels] at hf ⊢
    split at hf
    next none_new =>
      rcases h.closed f hf with last | closed
      · simpa [none_new] using @seen_or_fresh (found.map Found.node) _ _ (mem_reached last leads)
      · exact closed n leads
    next some_new =>
      obtain ⟨id, h⟩ := h.round some_new
      refine ih h ?_ hf
      simp only [List.length_cons]
      omega

theorem Searched.first (adj : Adjacency) (source : String) :
    Searched adj [⟨source, [source]⟩] [⟨source, [source]⟩] [] where
  inside _ h := h
  closed _ h := .inl h
  distinct := .nil
  keys := List.nil_subset _
  before _ h := by cases h
  fresh _ _ h := by cases h

theorem mem_search_of_reachable {adj : Adjacency} {source b : String}
    (h : Relation.ReflTransGen adj.Leads source b) :
    b ∈ (adj.search source).map Found.node := by
  induction h with
  | refl => exact List.mem_map_of_mem (mem_levels_of_mem (List.mem_singleton_self _))
  | tail _ leads ih =>
    obtain ⟨f, hf, rfl⟩ := List.mem_map.1 ih
    refine (Searched.first adj source).closed_levels ?_ hf leads
    simp [Table.keys]

/-- A search finds what the source reaches. -/
theorem mem_search_iff {adj : Adjacency} {source b : String} :
    b ∈ (adj.search source).map Found.node ↔ Relation.ReflTransGen adj.Leads source b := by
  refine ⟨fun h => ?_, mem_search_of_reachable⟩
  obtain ⟨f, hf, rfl⟩ := List.mem_map.1 h
  exact reachable_of_mem_search hf

end Dungeon.Adjacency
