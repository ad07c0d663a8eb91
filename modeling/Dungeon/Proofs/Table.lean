import Dungeon.Table

/-!
# Tables by their keys

A key is in a table iff something is found under it; where no key comes twice, what is found is the
entry. Tables that differ only in the order of their entries stay so under insertion. Of pairs
entered in turn the last one of a key counts.
-/

namespace Dungeon

/-- A new element at the end keeps elements distinct. -/
theorem nodup_snoc {β : Type} {xs : List β} {x : β} (nodup : xs.Nodup) (new : x ∉ xs) :
    (xs ++ [x]).Nodup := by
  refine List.nodup_append.2 ⟨nodup, by simp, ?_⟩
  intro a old b last same
  rw [same, List.mem_singleton.1 last] at old
  exact new old

namespace Table

variable {κ β γ : Type} [DecidableEq κ]

theorem lookup_eq_none {k : κ} {pairs : List (κ × β)} :
    lookup k pairs = none ↔ k ∉ pairs.map Prod.fst := by
  induction pairs with
  | nil => simp [lookup]
  | cons p rest ih =>
    by_cases h : p.1 = k
    · simp [lookup, h]
    · simp [lookup, h, ih, Ne.symm h]

theorem mem_of_lookup {k : κ} {v : β} {pairs : List (κ × β)} (h : lookup k pairs = some v) :
    (k, v) ∈ pairs := by
  induction pairs with
  | nil => simp [lookup] at h
  | cons p rest ih =>
    rw [lookup] at h
    split at h
    next same => simp [← same, ← Option.some.inj h]
    next => exact List.mem_cons_of_mem _ (ih h)

theorem lookup_of_mem {k : κ} {v : β} {pairs : List (κ × β)}
    (nodup : (pairs.map Prod.fst).Nodup) (h : (k, v) ∈ pairs) : lookup k pairs = some v := by
  induction pairs with
  | nil => simp at h
  | cons p rest ih =>
    obtain ⟨new, nodup⟩ := List.nodup_cons.1 nodup
    rcases List.mem_cons.1 h with rfl | h
    · simp [lookup]
    · have other : p.1 ≠ k := fun same => new (same ▸ List.mem_map_of_mem h)
      simp [lookup, other, ih nodup h]

theorem lookup_append (k : κ) (xs ys : List (κ × β)) :
    lookup k (xs ++ ys) = (lookup k xs).or (lookup k ys) := by
  induction xs with
  | nil => rfl
  | cons p rest ih =>
    by_cases h : p.1 = k <;> simp [lookup, h, ih]

theorem lookup_map (k : κ) (f : κ → β → γ) (pairs : List (κ × β)) :
    lookup k (pairs.map fun p => (p.1, f p.1 p.2)) = (lookup k pairs).map (f k) := by
  induction pairs with
  | nil => rfl
  | cons p rest ih =>
    by_cases h : p.1 = k <;> simp [lookup, h, ih]

/-- In a list that gives each key its entry, that entry is found. -/
theorem lookup_map_self (k : κ) (f : κ → β) (ks : List κ) :
    lookup k (ks.map fun k => (k, f k)) = if k ∈ ks then some (f k) else none := by
  induction ks with
  | nil => rfl
  | cons j rest ih =>
    by_cases h : j = k
    · simp [lookup, h]
    · simp [lookup, h, ih, Ne.symm h]

theorem find?_map (f : β → γ) (t : Table κ β) (k : κ) : (t.map f).find? k = (t.find? k).map f :=
  lookup_map k (fun _ => f) t.entries

omit [DecidableEq κ] in
@[simp] theorem keys_map (f : β → γ) (t : Table κ β) : (t.map f).keys = t.keys := by
  simp [keys, map, Function.comp_def]

theorem map_put (f : β → γ) (k : κ) (v : β) (pairs : List (κ × β)) :
    (put k v pairs).map (fun p => (p.1, f p.2)) =
      put k (f v) (pairs.map fun p => (p.1, f p.2)) := by
  induction pairs with
  | nil => rfl
  | cons p rest ih =>
    by_cases h : p.1 = k <;> simp [put, h, ih]

theorem map_insert (f : β → γ) (t : Table κ β) (k : κ) (v : β) :
    (t.insert k v).map f = (t.map f).insert k (f v) :=
  congrArg Table.mk (map_put f k v t.entries)

theorem map_extend (f : β → γ) (t : Table κ β) (pairs : List (κ × β)) :
    (t.extend pairs).map f = (t.map f).extend (pairs.map fun p => (p.1, f p.2)) := by
  induction pairs generalizing t with
  | nil => rfl
  | cons p rest ih =>
    have step : (t.extend (p :: rest)).map f = ((t.insert p.1 p.2).extend rest).map f := rfl
    rw [step, ih, map_insert]
    rfl

theorem map_ofList (f : β → γ) (pairs : List (κ × β)) :
    (ofList pairs).map f = ofList (pairs.map fun p => (p.1, f p.2)) :=
  map_extend f empty pairs

theorem find?_eq_none {t : Table κ β} {k : κ} : t.find? k = none ↔ k ∉ t.keys := lookup_eq_none

theorem mem_keys_iff {t : Table κ β} {k : κ} : k ∈ t.keys ↔ ∃ v, t.find? k = some v := by
  rw [← Option.isSome_iff_exists, ← Option.ne_none_iff_isSome, ne_eq, find?_eq_none,
    Classical.not_not]

theorem mem_entries_iff {t : Table κ β} (nodup : t.keys.Nodup) {k : κ} {v : β} :
    (k, v) ∈ t.entries ↔ t.find? k = some v :=
  ⟨lookup_of_mem nodup, mem_of_lookup⟩

/-- Changing the entry of a key that is there keeps the keys as they are. -/
theorem keys_insert_of_find? {t : Table κ β} {k : κ} {w : β} (h : t.find? k = some w) (v : β) :
    (t.insert k v).keys = t.keys := by
  rw [keys_insert, if_pos (mem_keys_iff.2 ⟨w, h⟩)]

theorem put_of_lookup {k : κ} {pairs : List (κ × β)} (absent : lookup k pairs = none) (v : β) :
    put k v pairs = pairs ++ [(k, v)] := by
  induction pairs with
  | nil => rfl
  | cons p rest ih =>
    rw [lookup] at absent
    split at absent
    · cases absent
    next other => rw [put, if_neg other, ih absent, List.cons_append]

/-- The entry of a new key stands at the end. -/
theorem insert_of_not_contains {t : Table κ β} {k : κ} (new : t.contains k = false) (v : β) :
    t.insert k v = ⟨t.entries ++ [(k, v)]⟩ :=
  congrArg mk (put_of_lookup (Option.not_isSome_iff_eq_none.1 (Bool.eq_false_iff.1 new)) v)

theorem nodup_keys_insert {t : Table κ β} (nodup : t.keys.Nodup) (k : κ) (v : β) :
    (t.insert k v).keys.Nodup := by
  rw [keys_insert]
  split
  next => exact nodup
  next new => exact nodup_snoc nodup new

theorem lookup_perm {xs ys : List (κ × β)} (perm : xs.Perm ys) (nodup : (xs.map Prod.fst).Nodup)
    (k : κ) : lookup k xs = lookup k ys := by
  have nodup' : (ys.map Prod.fst).Nodup := (perm.map Prod.fst).nodup_iff.1 nodup
  cases found : lookup k xs with
  | none =>
    have out := lookup_eq_none.1 found
    rw [(perm.map Prod.fst).mem_iff] at out
    exact (lookup_eq_none.2 out).symm
  | some v => exact (lookup_of_mem nodup' (perm.mem_iff.1 (mem_of_lookup found))).symm

theorem put_perm {xs ys : List (κ × β)} (perm : xs.Perm ys) (nodup : (xs.map Prod.fst).Nodup)
    (k : κ) (v : β) : (put k v xs).Perm (put k v ys) := by
  induction perm with
  | nil => exact .refl _
  | cons p _ ih =>
    rw [put, put]
    split
    next => exact .cons _ ‹_›
    next => exact (ih (List.nodup_cons.1 nodup).2).cons p
  | swap p q rest =>
    have distinct : q.1 ≠ p.1 := by
      intro same
      simp [same] at nodup
    by_cases hp : p.1 = k
    · have hq : q.1 ≠ k := fun h => distinct (h.trans hp.symm)
      simpa [put, hp, hq] using List.Perm.swap _ _ _
    · by_cases hq : q.1 = k <;> simpa [put, hp, hq] using List.Perm.swap _ _ _
  | trans first _ ih₁ ih₂ =>
    exact (ih₁ nodup).trans (ih₂ ((first.map Prod.fst).nodup_iff.1 nodup))

/-- Of pairs entered in turn the last one of a key counts. -/
theorem find?_extend (t : Table κ β) (pairs : List (κ × β)) (k : κ) :
    (t.extend pairs).find? k = (lookup k pairs.reverse).or (t.find? k) := by
  induction pairs generalizing t with
  | nil => rfl
  | cons p rest ih =>
    have step : (t.extend (p :: rest)).find? k = ((t.insert p.1 p.2).extend rest).find? k := rfl
    rw [step, ih, List.reverse_cons, lookup_append, find?_insert]
    cases lookup k rest.reverse with
    | some v => rfl
    | none => by_cases h : p.1 = k <;> simp [lookup, h]

theorem find?_ofList (pairs : List (κ × β)) (k : κ) :
    (ofList pairs).find? k = lookup k pairs.reverse := by
  rw [ofList, find?_extend, find?_empty, Option.or_none]

theorem mem_of_find?_ofList {pairs : List (κ × β)} {k : κ} {v : β}
    (h : (ofList pairs).find? k = some v) : (k, v) ∈ pairs := by
  rw [find?_ofList] at h
  simpa using mem_of_lookup h

theorem find?_ofList_isSome {pairs : List (κ × β)} {k : κ} (h : k ∈ pairs.map Prod.fst) :
    ∃ v, (ofList pairs).find? k = some v := by
  rw [find?_ofList]
  cases found : lookup k pairs.reverse with
  | some v => exact ⟨v, rfl⟩
  | none =>
    have out := lookup_eq_none.1 found
    simp only [List.map_reverse, List.mem_reverse] at out
    exact absurd h out

end Table

end Dungeon
