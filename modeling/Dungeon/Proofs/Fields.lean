import Dungeon.Proofs.Parameter
import Dungeon.Proofs.Table

/-!
# Fields and their keys

Fields are entered one after another. A key that is there keeps its place and gets the new value; another
one goes to the end. Keys may be any values, but mostly they are names, and names are equal only when they
are the same.
-/

namespace Dungeon

variable {α : Type} [Scalar α]

theorem Value.eq_text (s : String) (k : Value α) : Value.eq (.text s) k = (k.text? == some s) := by
  cases k <;> simp [Value.eq, Value.text?, Bool.beq_comm]

theorem Value.eq_of_eq_text {s : String} {k : Value α} (equal : Value.eq k (.text s) = true) :
    k = .text s := by
  cases k <;> simp_all [Value.eq]

namespace Fields

open Value

theorem insert_cons (p : Value α × Value α) (rest : Fields α) (k v : Value α) :
    Fields.insert (p :: rest) k v =
      if Value.eq k p.1 then (p.1, v) :: rest else p :: Fields.insert rest k v := rfl

theorem extend_cons (fields : Fields α) (p : Value α × Value α) (rest : Fields α) :
    fields.extend (p :: rest) = (fields.insert p.1 p.2).extend rest := rfl

/-- The later value of a name counts. -/
theorem insert_insert (fields : Fields α) (s : String) (v w : Value α) :
    (fields.insert (.text s) v).insert (.text s) w = fields.insert (.text s) w := by
  induction fields with
  | nil => simp [insert, eq]
  | cons p rest ih =>
    rw [insert_cons, insert_cons]
    split
    next same => rw [insert_cons, if_pos same]
    next other => rw [insert_cons, if_neg other, ih]

/-- A name that is there can be given its value before or after another name gets one. -/
theorem insert_comm {fields : Fields α} {s t : String} (other : s ≠ t) {u : Value α}
    (there : fields.named? s = some u) (v w : Value α) :
    (fields.insert (.text s) v).insert (.text t) w = (fields.insert (.text t) w).insert (.text s) v := by
  induction fields with
  | nil => cases there
  | cons p rest ih =>
    rw [named?_cons] at there
    rw [insert_cons, insert_cons, eq_text, eq_text]
    by_cases first : p.1.text? = some s
    · simp [first, insert_cons, eq_text, other]
    · rw [if_neg first] at there
      by_cases second : p.1.text? = some t
      · simp [second, insert_cons, eq_text, Ne.symm other]
      · simp [first, second, insert_cons, eq_text, ih there]

/-- A name keeps its place, and a new one goes to the end. -/
theorem keys_insert (fields : Fields α) (s : String) (v : Value α) :
    (fields.insert (.text s) v).map Prod.fst =
      if (fields.named? s).isSome then fields.map Prod.fst else fields.map Prod.fst ++ [.text s] := by
  induction fields with
  | nil => rfl
  | cons p rest ih =>
    rw [insert_cons, eq_text, named?_cons]
    by_cases first : p.1.text? = some s
    · simp [first]
    · by_cases later : (Fields.named? rest s).isSome <;> simp [first, later, ih]

/-- All keys are names, and none comes twice. -/
structure Proper (fields : Fields α) : Prop where
  named : Bindings.Named fields
  distinct : (fields.map Prod.fst).Nodup

omit [Scalar α] in
theorem named?_eq_none {fields : Fields α} {s : String} :
    fields.named? s = none ↔ Value.text s ∉ fields.map Prod.fst := by
  induction fields with
  | nil => simp [named?]
  | cons p rest ih =>
    obtain ⟨k, v⟩ := p
    rw [named?_cons, List.map_cons, List.mem_cons, not_or, ← ih]
    have first : (k.text? = some s) ↔ .text s = k := by cases k <;> simp [text?, eq_comm]
    split
    next same => simp [first.1 same]
    next other => simp [mt first.2 other]

theorem Proper.insert {fields : Fields α} (h : fields.Proper) (s : String) (v : Value α) :
    (fields.insert (.text s) v).Proper where
  named := h.named.insert s v
  distinct := by
    rw [keys_insert]
    split
    next => exact h.distinct
    next new =>
      rw [Bool.not_eq_true, Option.isSome_eq_false_iff, Option.isNone_iff_eq_none] at new
      exact nodup_snoc h.distinct (named?_eq_none.1 new)

/-- A name that is there can be given its value before or after others get one. -/
theorem extend_insert_late {base more : Fields α} {s : String} (named : Bindings.Named more)
    (other : more.named? s = none) {u : Value α} (there : base.named? s = some u) (v : Value α) :
    (base.insert (.text s) v).extend more = (base.extend more).insert (.text s) v := by
  induction more generalizing base u with
  | nil => rfl
  | cons p rest ih =>
    obtain ⟨⟨t, name⟩, others⟩ := List.forall_mem_cons.1 named
    obtain ⟨k, w⟩ := p
    obtain rfl : k = .text t := name
    rw [named?_cons] at other
    have differs : s ≠ t := by
      rintro rfl
      simp [text?] at other
    have later : Fields.named? rest s = none := by simpa [text?, Ne.symm differs] using other
    have still : (base.insert (.text t) w).named? s = some u := by
      rw [named?_insert, if_neg (Ne.symm differs), there]
    rw [extend_cons, extend_cons, insert_comm differs there]
    exact ih others later still

/-- A value can be entered into fields before or after these extend others. -/
theorem extend_insert {more : Fields α} (h : more.Proper) (s : String) (v : Value α)
    (base : Fields α) : base.extend (more.insert (.text s) v) = (base.extend more).insert (.text s) v := by
  induction more generalizing base with
  | nil => rfl
  | cons p rest ih =>
    obtain ⟨⟨t, name⟩, named⟩ := List.forall_mem_cons.1 h.named
    obtain ⟨new, distinct⟩ := List.nodup_cons.1 h.distinct
    obtain ⟨k, w⟩ := p
    obtain rfl : k = .text t := name
    rw [insert_cons, eq_text]
    by_cases same : t = s
    · subst same
      have there : (base.insert (.text t) w).named? t = some w := by
        rw [named?_insert, if_pos rfl]
      have late := extend_insert_late named (named?_eq_none.2 new) there v
      rw [insert_insert] at late
      simpa [text?, extend_cons] using late
    · simpa [text?, same, extend_cons] using ih ⟨named, distinct⟩ (base.insert (.text t) w)

/-- No key comes again. -/
def Distinct (fields : Fields α) : Prop :=
  (fields.map Prod.fst).Pairwise fun earlier later => Value.eq later earlier = false

/-- A key that equals one of the fields is that one. -/
def Agrees (fields : Fields α) (k : Value α) : Prop :=
  ∀ p ∈ fields, Value.eq k p.1 = true → k = p.1

theorem agrees_of_named {fields : Fields α} (named : Bindings.Named fields) (k : Value α) :
    fields.Agrees k := by
  intro p mem equal
  obtain ⟨name, own⟩ := named p mem
  rw [own] at equal ⊢
  exact eq_of_eq_text equal

theorem keys_insert_of (fields : Fields α) (k v : Value α) :
    (fields.insert k v).map Prod.fst =
      if fields.any fun p => Value.eq k p.1 then fields.map Prod.fst
      else fields.map Prod.fst ++ [k] := by
  induction fields with
  | nil => rfl
  | cons p rest ih =>
    rw [insert_cons, List.any_cons]
    by_cases first : Value.eq k p.1 = true
    · simp [first]
    · by_cases later : List.any rest fun p => Value.eq k p.1 <;> simp [first, later, ih]

section

variable {fields more : Fields α} {k v : Value α} {p : Value α × Value α}

theorem distinct_cons :
    Distinct (p :: more) ↔ (∀ q ∈ more, Value.eq q.1 p.1 = false) ∧ Distinct more := by
  simp [Distinct]

theorem Distinct.insert (h : fields.Distinct) (k v : Value α) : (fields.insert k v).Distinct := by
  rw [Distinct, keys_insert_of]
  split
  next => exact h
  next new =>
    refine List.pairwise_append.2 ⟨h, List.pairwise_singleton _ _, ?_⟩
    intro key mem last same
    obtain ⟨q, there, rfl⟩ := List.mem_map.1 mem
    rw [List.mem_singleton.1 same]
    exact Bool.eq_false_iff.2 fun equal => new (List.any_eq_true.2 ⟨q, there, equal⟩)

theorem Distinct.extend (h : fields.Distinct) (more : Fields α) : (fields.extend more).Distinct := by
  induction more generalizing fields with
  | nil => exact h
  | cons p rest ih => exact ih (h.insert p.1 p.2)

theorem keys_prefix_extend (fields more : Fields α) :
    fields.map Prod.fst <+: (fields.extend more).map Prod.fst := by
  induction more generalizing fields with
  | nil => exact List.prefix_refl _
  | cons p rest ih =>
    refine List.IsPrefix.trans ?_ (ih _)
    rw [keys_insert_of]
    split
    · exact List.prefix_refl _
    · exact List.prefix_append _ _

theorem mem_insert_self (agrees : fields.Agrees k) : (k, v) ∈ fields.insert k v := by
  induction fields with
  | nil => exact List.mem_singleton_self _
  | cons q rest ih =>
    obtain ⟨own, others⟩ := List.forall_mem_cons.1 agrees
    rw [insert_cons]
    split
    next equal => rw [← own equal]; exact List.mem_cons_self
    next => exact List.mem_cons_of_mem _ (ih others)

theorem mem_of_mem_insert (agrees : fields.Agrees k) (mem : p ∈ fields.insert k v) :
    p = (k, v) ∨ p ∈ fields := by
  induction fields with
  | nil => exact .inl (List.mem_singleton.1 mem)
  | cons q rest ih =>
    obtain ⟨own, others⟩ := List.forall_mem_cons.1 agrees
    rw [insert_cons] at mem
    split at mem
    next equal =>
      rw [← own equal] at mem
      exact (List.mem_cons.1 mem).imp_right (List.mem_cons_of_mem _)
    next =>
      rcases List.mem_cons.1 mem with rfl | mem
      · exact .inr List.mem_cons_self
      · exact (ih others mem).imp_right (List.mem_cons_of_mem _)

theorem mem_insert_of_ne (other : Value.eq k p.1 = false) (mem : p ∈ fields) :
    p ∈ fields.insert k v := by
  induction fields with
  | nil => cases mem
  | cons q rest ih =>
    rw [insert_cons]
    rcases List.mem_cons.1 mem with rfl | mem
    · rw [if_neg (by rw [other]; exact Bool.false_ne_true)]
      exact List.mem_cons_self
    · split
      · exact List.mem_cons_of_mem _ mem
      · exact List.mem_cons_of_mem _ (ih mem)

/-- A key that agrees with the fields still does when a field of another key is entered. -/
theorem Agrees.insert {k' : Value α} (agrees : fields.Agrees k') (other : Value.eq k' k = false) :
    (fields.insert k v).Agrees k' := by
  intro q mem equal
  have key : q.1 ∈ (fields.insert k v).map Prod.fst := List.mem_map_of_mem mem
  have old : q.1 ∈ fields.map Prod.fst := by
    rw [keys_insert_of] at key
    split at key
    next => exact key
    next =>
      refine (List.mem_append.1 key).resolve_right fun last => ?_
      rw [List.mem_singleton.1 last, other] at equal
      cases equal
  obtain ⟨q', there, same⟩ := List.mem_map.1 old
  rw [← same] at equal ⊢
  exact agrees q' there equal

/-- Fields that agree with keys that are entered. -/
theorem agrees_insert (distinct : Distinct (p :: more)) (agree : ∀ q ∈ p :: more, fields.Agrees q.1) :
    ∀ q ∈ more, (fields.insert p.1 p.2).Agrees q.1 := fun q mem =>
  (agree q (List.mem_cons_of_mem _ mem)).insert ((distinct_cons.1 distinct).1 q mem)

/-- Whatever is there in the end was there or was entered. -/
theorem mem_of_mem_extend (distinct : more.Distinct) (agree : ∀ q ∈ more, fields.Agrees q.1)
    (mem : p ∈ fields.extend more) : p ∈ more ∨ p ∈ fields := by
  induction more generalizing fields with
  | nil => exact .inr mem
  | cons q rest ih =>
    rw [extend_cons] at mem
    rcases ih (distinct_cons.1 distinct).2 (agrees_insert distinct agree) mem with late | early
    · exact .inl (List.mem_cons_of_mem _ late)
    · rcases mem_of_mem_insert (agree q List.mem_cons_self) early with rfl | old
      · exact .inl List.mem_cons_self
      · exact .inr old

theorem mem_extend_of_ne (other : ∀ q ∈ more, Value.eq q.1 p.1 = false) (mem : p ∈ fields) :
    p ∈ fields.extend more := by
  induction more generalizing fields with
  | nil => exact mem
  | cons q rest ih =>
    obtain ⟨first, others⟩ := List.forall_mem_cons.1 other
    exact ih others (mem_insert_of_ne first mem)

/-- Whatever is entered is there in the end. -/
theorem mem_extend (distinct : more.Distinct) (agree : ∀ q ∈ more, fields.Agrees q.1)
    (mem : p ∈ more) : p ∈ fields.extend more := by
  induction more generalizing fields with
  | nil => cases mem
  | cons q rest ih =>
    obtain ⟨others, distinct'⟩ := distinct_cons.1 distinct
    rw [extend_cons]
    rcases List.mem_cons.1 mem with rfl | mem
    · exact mem_extend_of_ne others (mem_insert_self (agree p List.mem_cons_self))
    · exact ih distinct' (agrees_insert distinct agree) mem

theorem insert_append_of_new {front : Fields α} (new : ∀ q ∈ front, Value.eq k q.1 = false) :
    Fields.insert (front ++ fields) k v = front ++ fields.insert k v := by
  induction front with
  | nil => rfl
  | cons q rest ih =>
    obtain ⟨first, others⟩ := List.forall_mem_cons.1 new
    rw [List.cons_append, insert_cons, if_neg (by rw [first]; exact Bool.false_ne_true), ih others]
    rfl

/-- Entering fields into others that have the first names of theirs gives these fields. -/
theorem extend_of_prefix {front : Fields α} (named : Bindings.Named fields)
    (first : fields.map Prod.fst <+: more.map Prod.fst) (distinct : Distinct (front ++ more)) :
    Fields.extend (front ++ fields) more = front ++ more := by
  -- The front is what has been entered already; the other fields still have their old values.
  induction more generalizing front fields with
  | nil =>
    obtain rfl : fields = [] := by simpa using first
    rfl
  | cons q rest ih =>
    have apart : ∀ p ∈ front, Value.eq q.1 p.1 = false := by
      rw [Distinct, List.map_append, List.pairwise_append] at distinct
      exact fun p mem => distinct.2.2 p.1 (List.mem_map_of_mem mem) q.1 List.mem_cons_self
    rw [extend_cons, insert_append_of_new apart]
    have put : ∃ tail : Fields α, fields.insert q.1 q.2 = q :: tail ∧ Bindings.Named tail ∧
        tail.map Prod.fst <+: rest.map Prod.fst := by
      cases fields with
      | nil => exact ⟨[], rfl, named, List.nil_prefix⟩
      | cons p tail =>
        obtain ⟨⟨name, own⟩, others⟩ := List.forall_mem_cons.1 named
        obtain ⟨same, later⟩ := List.cons_prefix_cons.1 first
        refine ⟨tail, ?_, others, later⟩
        have equal : Value.eq q.1 p.1 = true := by
          rw [← same, own]
          simp [Value.eq]
        rw [insert_cons, if_pos equal, same]
    obtain ⟨tail, entered, named', first'⟩ := put
    rw [List.append_cons] at distinct
    rw [entered, List.append_cons front q tail, List.append_cons front q rest]
    exact ih named' first' distinct

end

end Fields

end Dungeon
