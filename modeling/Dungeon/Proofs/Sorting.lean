import Dungeon.Sorting

/-!
# What sorting decides

Under a total and transitive order the result is sorted, and elements that no tie leaves level have
only one sorted order. So a list that is sorted forgets in which order it was given.
-/

namespace Dungeon

variable {β : Type} {le : β → β → Bool}

theorem insertBy_pairwise (total : ∀ a b, le a b ∨ le b a)
    (trans : ∀ a b c, le a b → le b c → le a c) (x : β) (xs : List β)
    (sorted : xs.Pairwise fun a b => le a b) : (insertBy le x xs).Pairwise fun a b => le a b := by
  induction xs with
  | nil => simp [insertBy]
  | cons y rest ih =>
    obtain ⟨least, sorted⟩ := List.pairwise_cons.1 sorted
    rw [insertBy]
    split
    next first =>
      refine List.pairwise_cons.2 ⟨?_, List.pairwise_cons.2 ⟨least, sorted⟩⟩
      intro z member
      rcases List.mem_cons.1 member with rfl | member
      · exact first
      · exact trans x y z first (least z member)
    next later =>
      refine List.pairwise_cons.2 ⟨?_, ih sorted⟩
      intro z member
      rcases List.mem_cons.1 ((insertBy_perm le x rest).mem_iff.1 member) with rfl | member
      · exact (total z y).resolve_left later
      · exact least z member

theorem sortBy_pairwise (total : ∀ a b, le a b ∨ le b a)
    (trans : ∀ a b c, le a b → le b c → le a c) (xs : List β) :
    (sortBy le xs).Pairwise fun a b => le a b := by
  induction xs with
  | nil => exact .nil
  | cons x rest ih => exact insertBy_pairwise total trans x _ ih

/-- Where only equal elements are level, any two orders of the elements sort to the same list. -/
theorem sortBy_eq_of_perm (total : ∀ a b, le a b ∨ le b a)
    (trans : ∀ a b c, le a b → le b c → le a c) {xs ys : List β} (perm : xs.Perm ys)
    (antisymm : ∀ a ∈ xs, ∀ b ∈ xs, le a b → le b a → a = b) :
    sortBy le xs = sortBy le ys := by
  have same : (sortBy le xs).Perm (sortBy le ys) :=
    ((sortBy_perm le xs).trans perm).trans (sortBy_perm le ys).symm
  refine same.eq_of_pairwise ?_ (sortBy_pairwise total trans xs) (sortBy_pairwise total trans ys)
  intro a b ha hb
  exact antisymm a ((sortBy_perm le xs).mem_iff.1 ha) b
    (perm.mem_iff.2 ((sortBy_perm le ys).mem_iff.1 hb))

/-- The order of texts is total. -/
theorem texts_total (a b : String) : decide (a ≤ b) = true ∨ decide (b ≤ a) = true := by
  simpa only [decide_eq_true_eq] using String.le_total a b

theorem texts_trans (a b c : String) (h : decide (a ≤ b) = true) (k : decide (b ≤ c) = true) :
    decide (a ≤ c) = true := by
  simp only [decide_eq_true_eq] at h k ⊢
  exact String.le_trans h k

/-- The order by a number and then by a text, in which edges and arrivals are sorted. -/
def numberThenText (a b : Nat × String) : Bool := a.1 < b.1 || (a.1 == b.1 && a.2 ≤ b.2)

theorem numberThenText_iff {a b : Nat × String} :
    numberThenText a b = true ↔ a.1 < b.1 ∨ (a.1 = b.1 ∧ a.2 ≤ b.2) := by
  simp [numberThenText]

theorem numberThenText_total (a b : Nat × String) :
    numberThenText a b = true ∨ numberThenText b a = true := by
  rw [numberThenText_iff, numberThenText_iff]
  rcases Nat.lt_trichotomy a.1 b.1 with h | h | h
  · exact .inl (.inl h)
  · exact (String.le_total a.2 b.2).imp (fun k => .inr ⟨h, k⟩) fun k => .inr ⟨h.symm, k⟩
  · exact .inr (.inl h)

theorem numberThenText_trans {a b c : Nat × String} (hab : numberThenText a b = true)
    (hbc : numberThenText b c = true) : numberThenText a c = true := by
  rw [numberThenText_iff] at *
  rcases hab with hab | ⟨hab, hab'⟩
  · exact .inl (by omega)
  · rcases hbc with hbc | ⟨hbc, hbc'⟩
    · exact .inl (by omega)
    · exact .inr ⟨by omega, String.le_trans hab' hbc'⟩

theorem numberThenText_antisymm {a b : Nat × String} (hab : numberThenText a b = true)
    (hba : numberThenText b a = true) : a = b := by
  rw [numberThenText_iff] at hab hba
  rcases hab with hab | ⟨hab, hab'⟩
  · omega
  · rcases hba with hba | ⟨_, hba'⟩
    · omega
    · exact Prod.ext hab (String.le_antisymm hab' hba')

/-- Sorting goes along with a map that keeps the order. -/
theorem map_sortBy {γ : Type} {le' : γ → γ → Bool} {f : β → γ}
    (kept : ∀ x y, le x y = le' (f x) (f y)) (xs : List β) :
    (sortBy le xs).map f = sortBy le' (xs.map f) := by
  have inserted (x : β) (ys : List β) :
      (insertBy le x ys).map f = insertBy le' (f x) (ys.map f) := by
    induction ys with
    | nil => rfl
    | cons y rest ih =>
      rw [insertBy, List.map_cons, insertBy, kept]
      split
      · rfl
      · rw [List.map_cons, ih]
  induction xs with
  | nil => rfl
  | cons x rest ih =>
    show (insertBy le x (sortBy le rest)).map f = insertBy le' (f x) (sortBy le' (rest.map f))
    rw [inserted, ih]

theorem sortedTexts_perm (xs : List String) : (sortedTexts xs).Perm xs := sortBy_perm _ xs

theorem mem_sortedTexts {xs : List String} {x : String} : x ∈ sortedTexts xs ↔ x ∈ xs :=
  (sortedTexts_perm xs).mem_iff

theorem sortedTexts_pairwise (xs : List String) : (sortedTexts xs).Pairwise (· ≤ ·) := by
  have sorted := sortBy_pairwise texts_total texts_trans xs
  exact sorted.imp fun h => of_decide_eq_true h

theorem sortedTexts_eq_of_perm {xs ys : List String} (perm : xs.Perm ys) :
    sortedTexts xs = sortedTexts ys := by
  apply sortBy_eq_of_perm texts_total texts_trans perm
  intro a _ b _ h k
  exact String.le_antisymm (of_decide_eq_true h) (of_decide_eq_true k)

theorem head?_sortedTexts_eq_none {xs : List String} : (sortedTexts xs).head? = none ↔ xs = [] := by
  rw [List.head?_eq_none_iff, ← List.length_eq_zero_iff, (sortedTexts_perm xs).length_eq,
    List.length_eq_zero_iff]

end Dungeon
