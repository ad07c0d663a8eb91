import Dungeon.Proofs.Exact
import Dungeon.Proofs.Ordered

/-!
# Numbers that are equal

Equality of numbers goes both ways and along. It need not hold of a number and itself: an undefined
number equals nothing. Doubles are equal when they share a place, exact numbers when they share a value.
-/

namespace Dungeon

/-- An arithmetic whose equality is one, except that undefined numbers equal nothing. -/
class Equality (α : Type) [Scalar α] : Prop where
  symm {a b : α} : Scalar.eq a b = true → Scalar.eq b a = true
  trans {a b c : α} : Scalar.eq a b = true → Scalar.eq b c = true → Scalar.eq a c = true

namespace Equality

variable {α : Type} [Scalar α] [Equality α] {a b : α}

/-- Numbers that equal one are defined. -/
theorem defined_left (equal : Scalar.eq a b = true) : Scalar.isUndefined a = false := by
  simp [Scalar.isUndefined, trans equal (symm equal)]

theorem defined_right (equal : Scalar.eq a b = true) : Scalar.isUndefined b = false :=
  defined_left (symm equal)

end Equality

theorem eq_float_iff {a b : Float} :
    Scalar.eq a b = true ↔ ∃ x, place? a = some x ∧ place? b = some x := by
  have tested : Scalar.eq a b = (a.toModel.unpack.compare b.toModel.unpack == some .eq) := rfl
  rw [tested, compare_eq_place, ← place?, ← place?]
  cases place? a with
  | none => simp
  | some x =>
    cases place? b with
    | none => simp
    | some y => simpa [compare_eq_iff_eq] using eq_comm

instance : Equality Float where
  symm equal := by
    obtain ⟨x, hx, hy⟩ := eq_float_iff.1 equal
    exact eq_float_iff.2 ⟨x, hy, hx⟩
  trans first second := by
    obtain ⟨x, hx, hy⟩ := eq_float_iff.1 first
    obtain ⟨y, hy', hz⟩ := eq_float_iff.1 second
    obtain rfl : x = y := Option.some.inj (hy.symm.trans hy')
    exact eq_float_iff.2 ⟨x, hx, hz⟩

instance {α : Type} [Scalar α] [Exact α] : Equality α where
  symm equal := (Exact.eq_iff _ _).2 ((Exact.eq_iff _ _).1 equal).symm
  trans first second :=
    (Exact.eq_iff _ _).2 (((Exact.eq_iff _ _).1 first).trans ((Exact.eq_iff _ _).1 second))

end Dungeon
