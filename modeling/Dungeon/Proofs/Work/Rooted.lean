import Dungeon.Fragment
import Dungeon.Proofs.Table
import Dungeon.Proofs.Work.Contribution
import Mathlib.Logic.Relation

/-!
# Rooted drafts

Rooms are placed one after another, each but the first connected from rooms that were there before.
`Rooted` is what placing a room in this way keeps, and from it every room is reached from the first.
A fragment is rooted in a draft when the rooms that it is anchored at are different rooms of the draft.
-/

namespace Dungeon

variable {α : Type}

/-- Ways lead forward in the order of the rooms, none twice, and to every room but the first. -/
structure Rooted (ids : List String) (ways : List (String × String)) : Prop where
  distinct : ids.Nodup
  once : ways.Nodup
  forward : ∀ w ∈ ways, [w.1, w.2].Sublist ids
  entered : ∀ id ∈ ids.tail, ∃ w ∈ ways, w.2 = id

namespace Rooted

variable {ids : List String} {ways : List (String × String)}

theorem nil : Rooted [] [] where
  distinct := .nil
  once := .nil
  forward := fun _ h => nomatch h
  entered := fun _ h => nomatch h

/-- One more room, connected from different rooms that are there already. -/
theorem place (h : Rooted ids ways) {x : String} (new : x ∉ ids) {parents : List String}
    (distinct : parents.Nodup) (inside : parents ⊆ ids) (some_parent : ids ≠ [] → parents ≠ []) :
    Rooted (ids ++ [x]) (ways ++ parents.map (·, x)) where
  distinct := nodup_snoc h.distinct new
  once := by
    have pairs : (parents.map (·, x)).Nodup := distinct.map fun _ _ same => (Prod.mk.inj same).1
    refine List.nodup_append.2 ⟨h.once, pairs, fun w old v added same => new ?_⟩
    obtain ⟨p, _, rfl⟩ := List.mem_map.1 added
    subst same
    exact (h.forward _ old).subset (by simp)
  forward w member := by
    rcases List.mem_append.1 member with old | added
    · exact (h.forward w old).trans (List.sublist_append_left ids [x])
    · obtain ⟨p, parent, rfl⟩ := List.mem_map.1 added
      exact (List.singleton_sublist.2 (inside parent)).append (List.Sublist.refl [x])
  entered id member := by
    by_cases none_before : ids = []
    · simp [none_before] at member
    · rw [List.tail_append_of_ne_nil none_before] at member
      rcases List.mem_append.1 member with old | last
      · obtain ⟨w, way, rfl⟩ := h.entered id old
        exact ⟨w, List.mem_append_left _ way, rfl⟩
      · obtain ⟨p, rest, split⟩ := List.exists_cons_of_ne_nil (some_parent none_before)
        refine ⟨(p, x), List.mem_append_right _ ?_, (List.mem_singleton.1 last).symm⟩
        simp [split]

/-- A room that comes behind another one has the greater index. -/
theorem idxOf_lt (h : Rooted ids ways) {w : String × String} (way : w ∈ ways) :
    ids.idxOf w.1 < ids.idxOf w.2 := by
  have ordered : ids.Pairwise fun a b => ids.idxOf a < ids.idxOf b := by
    refine List.pairwise_iff_getElem.2 fun i j hi hj lt => ?_
    rwa [h.distinct.idxOf_getElem, h.distinct.idxOf_getElem]
  have pair := ordered.sublist (h.forward w way)
  simpa using pair

/-- Ways lead from the first room to every room. -/
theorem reached (h : Rooted ids ways) {start : String} (first : ids.head? = some start)
    {id : String} (room : id ∈ ids) :
    Relation.ReflTransGen (fun a b => (a, b) ∈ ways) start id := by
  -- Each room but the first is entered from a room of lesser index.
  induction index : ids.idxOf id using Nat.strongRecOn generalizing id with
  | ind i ih =>
    obtain ⟨rest, split⟩ := List.head?_eq_some_iff.1 first
    rw [split] at room
    rcases List.mem_cons.1 room with rfl | later
    · exact .refl
    · obtain ⟨w, way, rfl⟩ := h.entered id (by rwa [split])
      have before : ids.idxOf w.1 < i := index ▸ h.idxOf_lt way
      have there : w.1 ∈ ids := (h.forward w way).subset (by simp)
      exact (ih _ before there rfl).tail way

end Rooted

/-- From which room to which a connection leads. -/
def Connection.way (c : Connection α) : String × String := (c.fromRoom, c.toRoom)

namespace Draft

def ways (d : Draft α) : List (String × String) := d.connections.map Connection.way

@[simp] theorem ways_gain (d : Draft α) (k : Contribution α) :
    (d.gain k).ways = d.ways ++ k.connections.map Connection.way := by
  simp [ways, gain]

structure Rooted (d : Draft α) : Prop where
  rooms : Dungeon.Rooted d.ids d.ways
  start : d.startRoom = d.ids.head?

theorem Rooted.empty [Scalar α] : (empty : Draft α).Rooted where
  rooms := .nil
  start := rfl

/-- Whether a draft is rooted does not depend on its content. -/
theorem Rooted.of_plain {d e : Draft α} (h : d.Rooted) (same : d.plain = e.plain) : e.Rooted where
  rooms := by
    have ways : d.ways = e.ways := (congrArg ways same : d.plain.ways = e.plain.ways)
    rw [← ids_eq_of_plain same, ← ways]
    exact h.rooms
  start := by
    have start : d.startRoom = e.startRoom := (alike_of_plain same).startRoom
    rw [← ids_eq_of_plain same, ← start]
    exact h.start

/-- Content and exits leave a draft rooted. -/
theorem Rooted.gain_content {d : Draft α} (h : d.Rooted) {k : Contribution α} (rooms : k.rooms = [])
    (connections : k.connections = []) (root : k.root = none) : (d.gain k).Rooted where
  rooms := by simpa [rooms, connections] using h.rooms
  start := by simpa [gain, rooms, root, ids, Function.comp_def] using h.start

/-- The anchors are different rooms of the draft; the first of them is the one to attach to. -/
structure Anchored (d : Draft α) (anchor : Option String) (anchors : List String) : Prop where
  first : anchor = anchors.head?
  distinct : anchors.Nodup
  inside : anchors ⊆ d.ids

theorem Anchored.gain {d : Draft α} {anchor : Option String} {anchors : List String}
    (h : d.Anchored anchor anchors) (k : Contribution α) : (d.gain k).Anchored anchor anchors where
  first := h.first
  distinct := h.distinct
  inside := by
    rw [ids_gain]
    exact List.subset_append_of_subset_left _ h.inside

theorem anchored_room {d : Draft α} {id : String} (room : id ∈ d.ids) :
    d.Anchored (some id) [id] where
  first := rfl
  distinct := List.nodup_singleton id
  inside := by simpa using room

end Draft

namespace Fragment

def RootedIn (f : Fragment α) (d : Draft α) : Prop := d.Anchored f.anchor f.anchors

/-- Only the anchors count. -/
theorem RootedIn.of_eq {f g : Fragment α} {d : Draft α} (h : f.RootedIn d)
    (anchor : g.anchor = f.anchor) (joined : g.joined = f.joined) : g.RootedIn d := by
  have same : g.anchors = f.anchors := by rw [anchors, anchors, anchor, joined]
  unfold RootedIn
  rw [anchor, same]
  exact h

theorem rootedIn_empty [Scalar α] (d : Draft α) : (empty : Fragment α).RootedIn d where
  first := rfl
  distinct := .nil
  inside := List.nil_subset _

end Fragment

theorem nodup_eraseDups {β : Type} [BEq β] [LawfulBEq β] (xs : List β) : xs.eraseDups.Nodup := by
  cases xs with
  | nil => exact .nil
  | cons x rest =>
    rw [List.eraseDups_cons]
    refine List.nodup_cons.2 ⟨fun again => ?_, nodup_eraseDups _⟩
    have kept := List.mem_filter.1 (List.mem_eraseDups.1 again)
    simp at kept
termination_by xs.length
decreasing_by exact Nat.lt_succ_of_le (List.length_filter_le _ _)

namespace Fragment

variable [Scalar α]

theorem anchors_join (first : Fragment α) (rest : List (Fragment α)) :
    (join first rest).anchors = ((first :: rest).flatMap anchors).eraseDups := by
  have shown : (join first rest).anchors =
      if ((first :: rest).flatMap anchors).eraseDups.isEmpty then
        ((first :: rest).flatMap anchors).eraseDups.head?.toList
      else ((first :: rest).flatMap anchors).eraseDups := rfl
  rw [shown]
  split
  next none_joined =>
    rw [List.isEmpty_iff.1 none_joined]
    rfl
  next => rfl

/-- What comes out of a merge is rooted when everything that came in is. -/
theorem rootedIn_merge {d : Draft α} {fs : List (Fragment α)} {f : Fragment α}
    (h : merge fs = .ok f) (rooted : ∀ g ∈ fs, g.RootedIn d) : f.RootedIn d := by
  match fs with
  | [] => cases h
  | [g] =>
    cases h
    exact rooted _ List.mem_cons_self
  | g :: g' :: rest =>
    cases h
    have anchors_eq := anchors_join g (g' :: rest)
    refine ⟨congrArg List.head? anchors_eq.symm, anchors_eq ▸ nodup_eraseDups _, ?_⟩
    rw [anchors_eq]
    intro id member
    obtain ⟨k, arrived, anchor⟩ := List.mem_flatMap.1 (List.mem_eraseDups.1 member)
    exact (rooted k arrived).inside anchor

end Fragment

end Dungeon
