import Dungeon.Proofs.Search
import Mathlib.Data.List.Nodup

/-!
# Searches with a queue

Searches with a queue find what a search by levels finds, in the same order: while a level is visited,
what it leads to gathers behind it. The marks of the nodes are read off the trails. A distance is the
length of a trail, a parent is its second node, and so the way back along the parents is the trail.
-/

namespace Dungeon

namespace Adjacency

variable {β : Type} {adj : Adjacency} {source target : String} {queue found level later : List Found}

/-! Node by node -/

/-- Only which nodes were seen counts. -/
theorem fresh_congr {seen seen' : List String} (same : ∀ n, n ∈ seen ↔ n ∈ seen') (fs : List Found) :
    fresh seen fs = fresh seen' fs := by
  induction fs generalizing seen seen' with
  | nil => rfl
  | cons f rest ih =>
    have contained : seen.contains f.node = seen'.contains f.node := by
      rw [Bool.eq_iff_iff, List.contains_iff_mem, List.contains_iff_mem, same]
    have further : ∀ n, n ∈ f.node :: seen ↔ n ∈ f.node :: seen' := by simp [same]
    rw [fresh, fresh, contained, ih same, ih further]

theorem fresh_append (seen : List String) (fs gs : List Found) :
    fresh seen (fs ++ gs) = fresh seen fs ++ fresh (seen ++ (fresh seen fs).map Found.node) gs := by
  induction fs generalizing seen with
  | nil => simp [fresh]
  | cons f rest ih =>
    rw [List.cons_append, fresh, fresh]
    split
    · exact ih seen
    · rw [ih, List.cons_append, List.map_cons]
      refine congrArg (f :: _ ++ ·) (fresh_congr (fun n => ?_) gs)
      simp only [List.mem_append, List.mem_cons]
      tauto

/-- Visit the nodes in the queue, each with its trail. -/
def drain (adj : Adjacency) : Nat → List Found → List Found → List Found
  | 0, _, found => found
  | _ + 1, [], found => found
  | limit + 1, f :: queue, found =>
    drain adj limit (queue ++ fresh (found.map Found.node) (adj.reached [f]))
      (found ++ fresh (found.map Found.node) (adj.reached [f]))

theorem drain_nil (adj : Adjacency) (limit : Nat) (found : List Found) :
    adj.drain limit [] found = found := by
  cases limit <;> rfl

/-- What a level leads to gathers at the end of the queue while the level is visited. -/
theorem drain_level (adj : Adjacency) (limit : Nat) (level later found : List Found) :
    adj.drain (level.length + limit) (level ++ later) found =
      adj.drain limit (later ++ fresh (found.map Found.node) (adj.reached level))
        (found ++ fresh (found.map Found.node) (adj.reached level)) := by
  induction level generalizing later found with
  | nil => simp [reached, fresh]
  | cons f rest ih =>
    have parts : adj.reached (f :: rest) = adj.reached [f] ++ adj.reached rest := by simp [reached]
    have count : (f :: rest).length + limit = rest.length + limit + 1 := by
      rw [List.length_cons]
      omega
    rw [parts, fresh_append, count, List.cons_append, drain, List.append_assoc, ih, List.map_append,
      List.append_assoc, List.append_assoc]

theorem length_le_levels (adj : Adjacency) (rounds : Nat) (level found : List Found) :
    found.length ≤ (adj.levels rounds level found).length := by
  induction rounds generalizing level found with
  | zero => exact Nat.le_refl _
  | succ rounds ih =>
    rw [levels]
    split
    next => exact Nat.le_refl _
    next =>
      refine Nat.le_trans ?_ (ih _ _)
      rw [List.length_append]
      exact Nat.le_add_right _ _

/-- With enough visits the queue finds what the rounds find, if these are enough as well. -/
theorem Searched.drain_eq {spent : List String} {rounds limit : Nat} (h : Searched adj level found spent)
    (enough : adj.keys.length < rounds + spent.length)
    (visits : (adj.levels rounds level found).length + level.length ≤ limit + found.length) :
    adj.drain limit level found = adj.levels rounds level found := by
  induction rounds generalizing level found spent limit with
  | zero =>
    have within := (h.distinct.subperm h.keys).length_le
    omega
  | succ rounds ih =>
    have least := length_le_levels adj (rounds + 1) level found
    obtain ⟨left, rfl⟩ : ∃ left, limit = level.length + left := Nat.exists_eq_add_of_le (by omega)
    have visited := drain_level adj left level [] found
    rw [List.append_nil, List.nil_append] at visited
    rw [visited]
    rw [levels] at visits ⊢
    split at visits
    next none_new => rw [none_new, drain_nil, List.append_nil]
    next some_new =>
      obtain ⟨id, next⟩ := h.round some_new
      refine ih next ?_ ?_
      · simp only [List.length_cons]
        omega
      · rw [List.length_append]
        omega

theorem nodup_fresh (seen : List String) (fs : List Found) :
    ((fresh seen fs).map Found.node).Nodup := by
  induction fs generalizing seen with
  | nil => exact .nil
  | cons f rest ih =>
    rw [fresh]
    split
    · exact ih seen
    · have new : f.node ∉ (fresh (f.node :: seen) rest).map Found.node := by
        intro again
        obtain ⟨g, member, same⟩ := List.mem_map.1 again
        exact not_mem_of_fresh member (by simp [same])
      exact List.nodup_cons.2 ⟨new, ih _⟩

/-- What was found and what is fresh are different nodes. -/
theorem nodup_append_fresh (distinct : (found.map Found.node).Nodup) (fs : List Found) :
    ((found ++ fresh (found.map Found.node) fs).map Found.node).Nodup := by
  rw [List.map_append]
  refine List.nodup_append'.2 ⟨distinct, nodup_fresh _ _, fun x old new => ?_⟩
  obtain ⟨f, member, rfl⟩ := List.mem_map.1 new
  exact not_mem_of_fresh member old

/-! Trails -/

/-- The nodes that were found are different. A trail starts at its node and goes on with the trail of
another one, and it is no longer than there are nodes. -/
structure Traced (queue found : List Found) : Prop where
  distinct : (found.map Found.node).Nodup
  trail : ∀ f ∈ found, f.trail = [f.node] ∨ ∃ g ∈ found, f.trail = f.node :: g.trail
  length : ∀ f ∈ found, f.trail.length ≤ found.length
  queued : queue ⊆ found

namespace Traced

theorem first (source : String) : Traced [⟨source, [source]⟩] [⟨source, [source]⟩] where
  distinct := List.nodup_singleton source
  trail f member := by
    rw [List.mem_singleton.1 member]
    exact .inl rfl
  length f member := by
    rw [List.mem_singleton.1 member]
    exact Nat.le_refl 1
  queued := List.Subset.refl _

variable {f : Found}

theorem trail_pos (h : Traced queue found) (member : f ∈ found) : 0 < f.trail.length := by
  rcases h.trail f member with same | ⟨g, _, same⟩ <;> simp [same]

theorem visit (h : Traced (f :: queue) found) (adj : Adjacency) :
    Traced (queue ++ fresh (found.map Found.node) (adj.reached [f]))
      (found ++ fresh (found.map Found.node) (adj.reached [f])) := by
  have here : f ∈ found := h.queued List.mem_cons_self
  have trailed {g : Found} (new : g ∈ fresh (found.map Found.node) (adj.reached [f])) :
      g.trail = g.node :: f.trail := by
    have reached := mem_of_mem_fresh new
    simp only [Adjacency.reached, List.flatMap_cons, List.flatMap_nil, List.append_nil] at reached
    obtain ⟨n, _, rfl⟩ := List.mem_map.1 reached
    rfl
  refine {
    distinct := nodup_append_fresh h.distinct _
    trail := fun g member => ?_
    length := fun g member => ?_
    queued := ?_ }
  · rcases List.mem_append.1 member with old | new
    · exact (h.trail g old).imp_right fun ⟨k, there, same⟩ => ⟨k, List.mem_append_left _ there, same⟩
    · exact .inr ⟨f, List.mem_append_left _ here, trailed new⟩
  · rw [List.length_append]
    rcases List.mem_append.1 member with old | new
    · exact Nat.le_trans (h.length g old) (Nat.le_add_right _ _)
    · have short := h.length f here
      have some_new := List.length_pos_of_mem new
      rw [trailed new, List.length_cons]
      omega
  · refine List.append_subset.2 ⟨fun g member => ?_, List.subset_append_right _ _⟩
    exact List.mem_append_left _ (h.queued (List.mem_cons_of_mem f member))

end Traced

/-! Marks -/

variable {g : Found → String × β}

/-- What one visit finds, if the marks are read off the trails. -/
theorem discover_eq (named : ∀ f, (g f).1 = f.node) {f : Found} {mark : β}
    (marks : ∀ n, g ⟨n, n :: f.trail⟩ = (n, mark)) (ns : List String) (found : List Found)
    (queue : List String) :
    discover mark ns (⟨found.map g⟩, queue) =
      (⟨(found ++ fresh (found.map Found.node) (ns.map fun n => ⟨n, n :: f.trail⟩)).map g⟩,
        queue ++ (fresh (found.map Found.node) (ns.map fun n => ⟨n, n :: f.trail⟩)).map Found.node) := by
  have contains_iff (found : List Found) (n : String) :
      (⟨found.map g⟩ : Table String β).contains n = (found.map Found.node).contains n := by
    have keys : (⟨found.map g⟩ : Table String β).keys = found.map Found.node := by
      rw [Table.keys, List.map_map]
      exact List.map_congr_left fun f _ => named f
    rw [Bool.eq_iff_iff, List.contains_iff_mem, ← keys, Table.mem_keys_iff, Table.contains,
      Option.isSome_iff_exists]
  induction ns generalizing found queue with
  | nil => simp [discover, fresh]
  | cons n rest ih =>
    rw [discover, contains_iff, List.map_cons, fresh]
    split
    · exact ih found queue
    next new =>
      have absent : (⟨found.map g⟩ : Table String β).contains n = false := by
        rw [contains_iff]
        exact Bool.eq_false_iff.2 new
      have entered : (⟨found.map g⟩ : Table String β).insert n mark =
          ⟨(found ++ [(⟨n, n :: f.trail⟩ : Found)]).map g⟩ := by
        rw [Table.insert_of_not_contains absent, List.map_append, List.map_singleton, marks]
      have seen (m : String) : m ∈ (found ++ [(⟨n, n :: f.trail⟩ : Found)]).map Found.node ↔
          m ∈ n :: found.map Found.node := by
        rw [List.map_append, List.map_singleton, List.mem_append, List.mem_singleton, List.mem_cons]
        exact or_comm
      rw [entered, ih, fresh_congr seen, List.append_assoc, List.append_assoc, List.map_cons]
      rfl

theorem reached_singleton (adj : Adjacency) (f : Found) :
    adj.reached [f] = (adj.next f.node).map fun n => ⟨n, n :: f.trail⟩ := by simp [reached]

/-- A search with a queue marks what is found with what is read off the trails. -/
theorem explore_eq (adj : Adjacency) (named : ∀ f, (g f).1 = f.node) {mark : Table String β → String → β}
    (marks : ∀ {queue found}, Traced queue found → ∀ f ∈ found, ∀ n,
      g ⟨n, n :: f.trail⟩ = (n, mark ⟨found.map g⟩ f.node))
    (limit : Nat) (h : Traced queue found) :
    adj.explore mark limit (queue.map Found.node) ⟨found.map g⟩ =
      ⟨(adj.drain limit queue found).map g⟩ := by
  induction limit generalizing queue found with
  | zero => rfl
  | succ limit ih =>
    cases queue with
    | nil => rfl
    | cons f queue =>
      have here : f ∈ found := h.queued List.mem_cons_self
      rw [List.map_cons, explore, discover_eq named (marks h f here), drain, ← reached_singleton]
      dsimp only
      rw [← List.map_append]
      exact ih (h.visit adj)

/-- The parents that a search remembers lead back along the trails. -/
theorem ancestors_eq (h : Traced queue found) {f : Found} (member : f ∈ found) {steps : Nat}
    (enough : f.trail.length ≤ steps) :
    ancestors ⟨found.map fun f => (f.node, f.trail[1]?)⟩ steps f.node = f.trail := by
  induction steps generalizing f with
  | zero => exact absurd enough (Nat.not_le.2 (h.trail_pos member))
  | succ steps ih =>
    have keys : (⟨found.map fun f => (f.node, f.trail[1]?)⟩ :
        Table String (Option String)).keys = found.map Found.node := by
      rw [Table.keys, List.map_map]
      rfl
    have entry : (⟨found.map fun f => (f.node, f.trail[1]?)⟩ :
        Table String (Option String)).find? f.node = some f.trail[1]? := by
      refine (Table.mem_entries_iff ?_).1 (List.mem_map.2 ⟨f, member, rfl⟩)
      exact keys ▸ h.distinct
    rw [ancestors, entry, Option.join_some]
    rcases h.trail f member with alone | ⟨k, there, same⟩
    · rw [alone]
      rfl
    · have parent : f.trail[1]? = some k.node := by
        rcases h.trail k there with ends | ⟨_, _, goes_on⟩
        · simp [same, ends]
        · simp [same, goes_on]
      rw [parent]
      dsimp only
      rw [ih there (by rw [same, List.length_cons] at enough; omega), same]

theorem prefix_drain (adj : Adjacency) (limit : Nat) (queue found : List Found) :
    found <+: adj.drain limit queue found := by
  induction limit generalizing queue found with
  | zero => exact List.prefix_refl _
  | succ limit ih =>
    cases queue with
    | nil => exact List.prefix_refl _
    | cons f queue => exact (List.prefix_append _ _).trans (ih _ _)

theorem find?_of_nodup (distinct : (found.map Found.node).Nodup) {f : Found} (member : f ∈ found) :
    found.find? (·.node == f.node) = some f := by
  cases first : found.find? (·.node == f.node) with
  | none => simpa using List.find?_eq_none.1 first f member
  | some k =>
    have same : k.node = f.node := by simpa using List.find?_some first
    rw [List.inj_on_of_nodup_map distinct (List.mem_of_find?_eq_some first) member same]

/-- A search for a path gives the trail of its target, if the queue is long enough visited. -/
theorem seek_eq (adj : Adjacency) (target : String) (limit : Nat) (h : Traced queue found)
    (ahead : ∀ f ∈ found, f.node = target → f ∈ queue)
    (visits : (adj.drain limit queue found).length + queue.length ≤ limit + found.length) :
    adj.seek target limit (queue.map Found.node) ⟨found.map fun f => (f.node, f.trail[1]?)⟩ =
      ((adj.drain limit queue found).find? (·.node == target)).map fun f => f.trail.reverse := by
  have missing {found : List Found} (none_ahead : ∀ f ∈ found, f.node ≠ target) :
      found.find? (·.node == target) = none :=
    List.find?_eq_none.2 fun f member => by simpa using none_ahead f member
  induction limit generalizing queue found with
  | zero =>
    have emptied : queue = [] := by
      rw [drain] at visits
      exact List.eq_nil_of_length_eq_zero (by omega)
    subst emptied
    rw [drain, missing fun f member same => List.not_mem_nil (ahead f member same)]
    rfl
  | succ limit ih =>
    cases queue with
    | nil =>
      rw [drain, missing fun f member same => List.not_mem_nil (ahead f member same)]
      rfl
    | cons f queue =>
      have here : f ∈ found := h.queued List.mem_cons_self
      rw [List.map_cons, seek]
      split
      next same =>
        -- The target was found once, so it is what the whole search finds.
        have only : found.find? (·.node == target) = some f := by
          rw [← same]
          exact find?_of_nodup h.distinct here
        obtain ⟨more, whole⟩ := prefix_drain adj (limit + 1) (f :: queue) found
        rw [← whole, List.find?_append, only, Option.some_or, Option.map_some, List.length_map,
          ancestors_eq h here (h.length f here)]
      next other =>
        have marks (n : String) : (n, (n :: f.trail)[1]?) = (n, some f.node) := by
          rcases h.trail f here with alone | ⟨k, _, goes_on⟩
          · simp [alone]
          · simp [goes_on]
        rw [discover_eq (g := fun f => (f.node, f.trail[1]?)) (fun _ => rfl) marks, drain,
          ← reached_singleton]
        dsimp only
        rw [← List.map_append]
        refine ih (h.visit adj) (fun k member same => ?_) ?_
        · rcases List.mem_append.1 member with old | new
          · rcases List.mem_cons.1 (ahead k old same) with rfl | later
            · exact absurd same other
            · exact List.mem_append_left _ later
          · exact List.mem_append_right _ new
        · rw [drain, List.length_cons] at visits
          simp only [List.length_append]
          omega

/-! The searches -/

/-- The nodes that are found are the source and neighbours, and each of them is found once. -/
theorem length_search_le (adj : Adjacency) (source : String) :
    (adj.search source).length ≤ adj.reach := by
  have distinct (rounds : Nat) (level found : List Found) (h : (found.map Found.node).Nodup) :
      ((adj.levels rounds level found).map Found.node).Nodup := by
    induction rounds generalizing level found with
    | zero => exact h
    | succ rounds ih =>
      rw [levels]
      split
      · exact h
      · exact ih _ _ (nodup_append_fresh h _)
  have inside : (adj.search source).map Found.node ⊆ source :: adj.values.flatten := by
    intro n member
    obtain ⟨f, found, rfl⟩ := List.mem_map.1 member
    rcases Relation.ReflTransGen.cases_tail (reachable_of_mem_search found) with same | ⟨k, _, leads⟩
    · exact same ▸ List.mem_cons_self
    · refine List.mem_cons_of_mem _ (List.mem_flatten.2 ⟨adj.next k, ?_, leads⟩)
      obtain ⟨ns, entry⟩ := Table.mem_keys_iff.1 (mem_keys_of_leads leads)
      rw [next, entry]
      exact List.mem_map_of_mem (Table.mem_of_lookup entry)
  have bound := ((distinct _ _ _ (Traced.first source).distinct).subperm inside).length_le
  rwa [List.length_map, List.length_cons] at bound

theorem drain_eq_search (adj : Adjacency) (source : String) :
    adj.drain adj.reach [⟨source, [source]⟩] [⟨source, [source]⟩] = adj.search source := by
  refine (Searched.first adj source).drain_eq ?_ ?_
  · simp [Table.keys]
  · exact Nat.add_le_add_right (length_search_le adj source) 1

theorem reachable_eq (adj : Adjacency) (source : String) :
    adj.reachable source = (adj.search source).map Found.node := by
  have explored : adj.explore (fun _ _ => ()) adj.reach [source] ⟨[(source, ())]⟩ =
      ⟨(adj.search source).map fun f => (f.node, ())⟩ := by
    rw [← drain_eq_search]
    exact explore_eq (g := fun f => (f.node, ())) adj (fun _ => rfl) (fun _ _ _ _ => rfl) _
      (.first source)
  rw [reachable, explored, Table.keys, List.map_map]
  rfl

theorem mem_reachable_iff {b : String} :
    b ∈ adj.reachable source ↔ Relation.ReflTransGen adj.Leads source b := by
  rw [reachable_eq, mem_search_iff]

/-- Distances are lengths of trails. -/
theorem distances_eq (key : adj.contains source = true) :
    adj.distances source = ⟨(adj.search source).map fun f => (f.node, f.trail.length - 1)⟩ := by
  have marks {queue found : List Found} (h : Traced queue found) (f : Found) (member : f ∈ found)
      (n : String) : (n, (n :: f.trail).length - 1) =
        (n, ((⟨found.map fun f => (f.node, f.trail.length - 1)⟩ :
          Table String Nat).find? f.node).getD 0 + 1) := by
    have keys : (⟨found.map fun f => (f.node, f.trail.length - 1)⟩ :
        Table String Nat).keys = found.map Found.node := by
      rw [Table.keys, List.map_map]
      rfl
    have entry : (⟨found.map fun f => (f.node, f.trail.length - 1)⟩ :
        Table String Nat).find? f.node = some (f.trail.length - 1) :=
      (Table.mem_entries_iff (keys ▸ h.distinct)).1 (List.mem_map.2 ⟨f, member, rfl⟩)
    have pos := h.trail_pos member
    rw [entry, Option.getD_some, List.length_cons, Nat.add_sub_cancel, Nat.sub_add_cancel pos]
  rw [distances, if_pos key, ← drain_eq_search]
  exact explore_eq (g := fun f => (f.node, f.trail.length - 1)) adj (fun _ => rfl) marks _ (.first source)

/-- A path is the trail of its target. -/
theorem shortestPath_eq (key : adj.contains source = true) :
    adj.shortestPath source target = (adj.find? source target).map fun f => f.trail.reverse := by
  have sought := seek_eq adj target adj.reach (Traced.first source)
    (fun f member _ => member)
    (Nat.add_le_add_right ((drain_eq_search adj source).symm ▸ length_search_le adj source) 1)
  rw [drain_eq_search] at sought
  rw [shortestPath, if_pos key]
  exact sought

end Adjacency

end Dungeon
