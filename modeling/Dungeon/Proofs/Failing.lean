import Dungeon.Fault
import Mathlib.Data.List.Forall2

/-!
# What computations give and fail with

A computation that gives a value has given one in each of its steps. `FailsOnly P x` says that `x`
gives a value or fails with a fault of the sort `P`; its rules follow the steps as well, so that what
a long computation can fail with is put together from its parts.
-/

namespace Dungeon

variable {ε β γ : Type}

theorem except_bind_eq_ok {x : Except ε β} {f : β → Except ε γ} {v : γ} :
    (x >>= f) = .ok v ↔ ∃ a, x = .ok a ∧ f a = .ok v := by
  cases x <;> simp [bind, Except.bind]

theorem except_map_eq_ok {x : Except ε β} {f : β → γ} {v : γ} :
    f <$> x = .ok v ↔ ∃ a, x = .ok a ∧ f a = v := by
  cases x <;> simp [Functor.map, Except.map]

/-- What one reads off a value that is given is read off some value. -/
theorem except_toOption_map_eq_some {x : Except ε β} {f : β → γ} {y : γ} :
    x.toOption.map f = some y ↔ ∃ v, x = .ok v ∧ f v = y := by
  cases x <;> simp [Except.toOption]

/-- What is given for a list is what is given for its elements, in their order. -/
theorem forall₂_mapM {f : β → Except ε γ} {xs : List β} {ys : List γ} (h : xs.mapM f = .ok ys) :
    List.Forall₂ (fun x y => f x = .ok y) xs ys := by
  induction xs generalizing ys with
  | nil =>
    cases h
    exact .nil
  | cons x rest ih =>
    rw [List.mapM_cons] at h
    obtain ⟨y, given, h⟩ := except_bind_eq_ok.1 h
    obtain ⟨more, mapped, h⟩ := except_bind_eq_ok.1 h
    cases h
    exact .cons given (ih mapped)

theorem mapM_ok {f : β → Except ε γ} {xs : List β} (h : ∀ x ∈ xs, ∃ y, f x = .ok y) :
    ∃ ys, xs.mapM f = .ok ys := by
  induction xs with
  | nil => exact ⟨[], rfl⟩
  | cons x rest ih =>
    obtain ⟨y, hy⟩ := h x List.mem_cons_self
    obtain ⟨ys, hys⟩ := ih fun x hx => h x (List.mem_cons_of_mem _ hx)
    exact ⟨y :: ys, by simp [List.mapM_cons, hy, hys, bind, Except.bind, pure, Except.pure]⟩

theorem mapM_eq_ok {f : β → Except ε γ} {g : β → γ} {xs : List β}
    (given : ∀ x ∈ xs, f x = .ok (g x)) : xs.mapM f = .ok (xs.map g) := by
  induction xs with
  | nil => rfl
  | cons x rest ih =>
    obtain ⟨first, others⟩ := List.forall_mem_cons.1 given
    rw [List.mapM_cons]
    exact except_bind_eq_ok.2 ⟨_, first, except_bind_eq_ok.2 ⟨_, ih others, rfl⟩⟩

theorem exists_of_mem_left {R : β → γ → Prop} {xs : List β} {ys : List γ}
    (related : List.Forall₂ R xs ys) {x : β} (mem : x ∈ xs) : ∃ y ∈ ys, R x y := by
  induction related with
  | nil => cases mem
  | cons first _ ih =>
    obtain rfl | mem := List.mem_cons.1 mem
    · exact ⟨_, List.mem_cons_self, first⟩
    · obtain ⟨y, there, holds⟩ := ih mem
      exact ⟨y, List.mem_cons_of_mem _ there, holds⟩

theorem exists_of_mem_right {R : β → γ → Prop} {xs : List β} {ys : List γ}
    (related : List.Forall₂ R xs ys) {y : γ} (mem : y ∈ ys) : ∃ x ∈ xs, R x y :=
  exists_of_mem_left (List.Forall₂.flip related) mem

theorem length_mapM {f : β → Except ε γ} {xs : List β} {ys : List γ} (h : xs.mapM f = .ok ys) :
    ys.length = xs.length :=
  (forall₂_mapM h).length_eq.symm

theorem mem_filterAuxM_iff {f : β → Except ε Bool} {xs picked out : List β}
    (done : xs.filterAuxM f picked = .ok out) {x : β} :
    x ∈ out ↔ x ∈ picked ∨ x ∈ xs ∧ f x = .ok true := by
  induction xs generalizing picked with
  | nil =>
    cases done
    simp
  | cons y rest ih =>
    obtain ⟨keep, looked, done⟩ := except_bind_eq_ok.1 done
    rw [ih done]
    by_cases same : x = y
    · cases keep <;> simp [same, looked]
    · cases keep <;> simp [same]

theorem mem_filterM_iff {f : β → Except ε Bool} {xs ys : List β} (h : xs.filterM f = .ok ys) {x : β} :
    x ∈ ys ↔ x ∈ xs ∧ f x = .ok true := by
  obtain ⟨out, filtered, done⟩ := except_bind_eq_ok.1 h
  cases done
  rw [List.mem_reverse, mem_filterAuxM_iff filtered]
  simp

def FailsOnly (P : Fault → Prop) (x : Except Fault β) : Prop := ∀ f, x = .error f → P f

namespace FailsOnly

variable {P : Fault → Prop}

theorem ok (v : β) : FailsOnly P (.ok v) := by
  intro f failed
  cases failed

theorem error {f : Fault} (h : P f) : FailsOnly P (.error f : Except Fault β) := by
  intro f' failed
  cases failed
  exact h

theorem mono {Q : Fault → Prop} {x : Except Fault β} (h : FailsOnly P x)
    (weaker : ∀ f, P f → Q f) : FailsOnly Q x :=
  fun f failed => weaker f (h f failed)

theorem bind {x : Except Fault β} {f : β → Except Fault γ} (first : FailsOnly P x)
    (second : ∀ v, x = .ok v → FailsOnly P (f v)) : FailsOnly P (x >>= f) := by
  cases x with
  | error fault => exact error (first fault rfl)
  | ok v => exact second v rfl

theorem map {x : Except Fault β} (f : β → γ) (h : FailsOnly P x) : FailsOnly P (f <$> x) := by
  cases x with
  | error fault => exact error (h fault rfl)
  | ok v => exact ok (f v)

theorem ite {c : Prop} [Decidable c] {x y : Except Fault β} (yes : FailsOnly P x)
    (no : FailsOnly P y) : FailsOnly P (if c then x else y) := by
  split
  · exact yes
  · exact no

theorem ite_of {c : Prop} [Decidable c] {x y : Except Fault β} (yes : c → FailsOnly P x)
    (no : ¬c → FailsOnly P y) : FailsOnly P (if c then x else y) := by
  split
  next holds => exact yes holds
  next fails => exact no fails

theorem mapM {f : β → Except Fault γ} {xs : List β} (h : ∀ x ∈ xs, FailsOnly P (f x)) :
    FailsOnly P (xs.mapM f) := by
  induction xs with
  | nil => exact ok []
  | cons x rest ih =>
    rw [List.mapM_cons]
    have tail := ih fun y hy => h y (List.mem_cons_of_mem x hy)
    exact (h x List.mem_cons_self).bind fun y _ => tail.bind fun ys _ => ok (y :: ys)

theorem filterM {f : β → Except Fault Bool} {xs : List β} (h : ∀ x ∈ xs, FailsOnly P (f x)) :
    FailsOnly P (xs.filterM f) := by
  have picking : ∀ picked, FailsOnly P (xs.filterAuxM f picked) := by
    induction xs with
    | nil => exact fun picked => ok picked
    | cons x rest ih =>
      intro picked
      have tail := ih fun y hy => h y (List.mem_cons_of_mem x hy)
      exact (h x List.mem_cons_self).bind fun keep _ => tail _
  exact (picking []).bind fun picked _ => ok picked.reverse

theorem foldlM {f : γ → β → Except Fault γ} {xs : List β}
    (h : ∀ x ∈ xs, ∀ v, FailsOnly P (f v x)) (start : γ) : FailsOnly P (xs.foldlM f start) := by
  induction xs generalizing start with
  | nil => exact ok start
  | cons x rest ih =>
    rw [List.foldlM_cons]
    have tail := ih fun y hy => h y (List.mem_cons_of_mem x hy)
    exact (h x List.mem_cons_self start).bind fun v _ => tail v

end FailsOnly

section

variable {α : Type}

theorem writing_eq_ok {vs : List (Value α)} {x v : β} :
    Value.writing vs x = .ok v ↔ vs.all Value.writable = true ∧ x = v := by
  unfold Value.writing
  split
  next all => simp [all]
  next some => simp [some]

theorem writing_text (s : String) (x : β) : Value.writing [(.text s : Value α)] x = .ok x := rfl

theorem quoting_of {P : Fault → Prop} {f : Fault} (meant : P f) (unwritable : P .unwritable)
    (vs : List (Value α)) : P (.quoting vs f) := by
  unfold Fault.quoting
  split
  · exact meant
  · exact unwritable

/-- A fault that quotes values is the one it is meant to be, unless a value cannot be written. -/
theorem quoting_cases (vs : List (Value α)) (f : Fault) :
    Fault.quoting vs f = f ∨
      Fault.quoting vs f = .unwritable ∧ ∃ v ∈ vs, v.writable = false := by
  unfold Fault.quoting
  split
  next all => exact .inl rfl
  next some => exact .inr ⟨rfl, by simpa using some⟩

namespace FailsOnly

variable {P : Fault → Prop}

theorem writing {vs : List (Value α)} {x : β}
    (h : (∃ v ∈ vs, v.writable = false) → P .unwritable) :
    FailsOnly P (Value.writing vs x) := by
  unfold Value.writing
  split
  next all => exact ok x
  next some => exact error (h (by simpa using some))

theorem quoting {vs : List (Value α)} {f : Fault} (meant : P f)
    (h : (∃ v ∈ vs, v.writable = false) → P .unwritable) :
    FailsOnly P (.error (.quoting vs f) : Except Fault β) := by
  obtain same | ⟨same, some⟩ := quoting_cases vs f
  · exact error (same.symm ▸ meant)
  · exact error (same.symm ▸ h some)

end FailsOnly

variable [Scalar α]

/-- A whole number that the arithmetic has no number for. -/
def Value.Oversized (v : Value α) : Prop :=
  ∃ n, v = .int n ∧ (Scalar.ofInt? n : Option α) = none

theorem failsOnly_toScalar (n : Number α) :
    FailsOnly (fun f => f = .tooLarge ∧ (Value.num n).Oversized) n.toScalar := by
  intro f failed
  cases n with
  | real x => cases failed
  | whole n =>
    unfold Number.toScalar at failed
    cases converted : (Number.whole n).toScalar? (α := α) with
    | some x =>
      rw [converted] at failed
      cases failed
    | none =>
      rw [converted] at failed
      cases failed
      exact ⟨rfl, n, rfl, converted⟩

end

end Dungeon
