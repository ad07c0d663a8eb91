import Dungeon.Scalar
import Mathlib.Algebra.Order.Ring.Int
import Mathlib.Data.Prod.Lex

/-!
# Numbers in order

A comparison of numbers tests an order in which all defined numbers have their place; numbers that are
equal, as the two zeros are, share it. An undefined number is before and behind nothing. Doubles are
such numbers: their places are those of sign, exponent and mantissa.
-/

namespace Dungeon

open Scalar (isUndefined)

/-- An arithmetic with an order of all defined numbers. -/
class Ordered (α : Type) [Scalar α] : Prop where
  le_total {a b : α} : isUndefined a = false → isUndefined b = false →
    Scalar.le a b = true ∨ Scalar.le b a = true
  le_trans {a b c : α} : Scalar.le a b = true → Scalar.le b c = true → Scalar.le a c = true
  lt_iff {a b : α} : isUndefined a = false → isUndefined b = false →
    (Scalar.lt a b = true ↔ ¬ Scalar.le b a = true)

namespace Ordered

variable {α : Type} [Scalar α] [Ordered α] {a b : α}

theorem le_refl (defined : isUndefined a = false) : Scalar.le a a = true :=
  (le_total defined defined).elim id id

theorem le_of_not_lt (ha : isUndefined a = false) (hb : isUndefined b = false)
    (not_less : ¬ Scalar.lt a b = true) : Scalar.le b a = true := by
  rw [lt_iff ha hb, not_not] at not_less
  exact not_less

theorem le_of_lt (ha : isUndefined a = false) (hb : isUndefined b = false)
    (less : Scalar.lt a b = true) : Scalar.le a b = true :=
  (le_total ha hb).resolve_right ((lt_iff ha hb).1 less)

end Ordered

open Float.Model (UnpackedFloat)

/-- The place of a double among all doubles, by sign and kind, exponent and mantissa. -/
def unpackedPlace? : UnpackedFloat → Option (ℤ ×ₗ ℤ ×ₗ ℤ)
  | .notANumber => none
  | .infinity s => some (toLex (s.apply 2, toLex (0, 0)))
  | .zero _ => some (toLex (0, toLex (0, 0)))
  | .finite s m e _ => some (toLex (s.apply 1, toLex (s.apply e, s.apply m)))

theorem compare_natCast (m n : ℕ) : compare (m : ℤ) n = compare m n := by
  rcases lt_trichotomy m n with less | rfl | more
  · rw [compare_lt_iff_lt.2 less, compare_lt_iff_lt]
    exact Int.ofNat_lt.2 less
  · rw [compare_eq_iff_eq.2 rfl]
    exact (compare_eq_iff_eq.2 rfl).symm
  · rw [compare_gt_iff_gt.2 more, compare_gt_iff_gt]
    exact Int.ofNat_lt.2 more

theorem compare_neg_neg (a b : ℤ) : compare (-a) (-b) = (compare a b).swap := by
  rcases lt_trichotomy a b with less | rfl | more
  · rw [compare_lt_iff_lt.2 less]
    exact compare_gt_iff_gt.2 (Int.neg_lt_neg less)
  · rw [compare_eq_iff_eq.2 rfl, compare_eq_iff_eq.2 rfl]
    rfl
  · rw [compare_gt_iff_gt.2 more]
    exact compare_lt_iff_lt.2 (Int.neg_lt_neg more)

/-- Doubles compare as their places do. -/
theorem compare_eq_place (a b : UnpackedFloat) :
    a.compare b = (unpackedPlace? a).bind fun x => (unpackedPlace? b).map (compare x) := by
  cases a with
  | notANumber => rfl
  | infinity s =>
    cases b with
    | notANumber => cases s <;> rfl
    | infinity t => cases s <;> cases t <;> rfl
    | zero t => cases s <;> rfl
    | finite t n f _ => cases s <;> cases t <;> rfl
  | zero s =>
    cases b with
    | notANumber => rfl
    | infinity t => cases t <;> rfl
    | zero t => rfl
    | finite t n f _ => cases t <;> rfl
  | finite s m e _ =>
    cases b with
    | notANumber => cases s <;> rfl
    | infinity t => cases s <;> cases t <;> rfl
    | zero t => cases s <;> rfl
    | finite t n f _ =>
      cases s with
      | negative =>
        cases t with
        | negative =>
          show some _ = some ((compare (-e) (-f)).then (compare (-(m : ℤ)) (-(n : ℤ))))
          rw [compare_neg_neg, compare_neg_neg, compare_natCast, Ordering.swap_then]
        | positive => rfl
      | positive =>
        cases t with
        | negative => rfl
        | positive =>
          show some _ = some ((compare e f).then (compare (m : ℤ) (n : ℤ)))
          rw [compare_natCast]

/-- The place of a double that is defined. -/
def place? (a : Float) : Option (ℤ ×ₗ ℤ ×ₗ ℤ) := unpackedPlace? a.toModel.unpack

theorem le_float_iff {a b : Float} :
    Scalar.le a b = true ↔ ∃ x y, place? a = some x ∧ place? b = some y ∧ x ≤ y := by
  have tested : Scalar.le a b = (a.toModel.unpack.compare b.toModel.unpack).any (·.isLE) :=
    (Bool.decide_coe _).trans (Bool.decide_coe _)
  rw [tested, compare_eq_place, ← place?, ← place?]
  cases place? a <;> cases place? b <;> simp [Ordering.isLE_iff_ne_gt, compare_le_iff_le]

theorem lt_float_iff {a b : Float} :
    Scalar.lt a b = true ↔ ∃ x y, place? a = some x ∧ place? b = some y ∧ x < y := by
  have tested : Scalar.lt a b = (a.toModel.unpack.compare b.toModel.unpack == some .lt) :=
    (Bool.decide_coe _).trans (Bool.decide_coe _)
  rw [tested, compare_eq_place, ← place?, ← place?]
  cases place? a <;> cases place? b <;> simp [compare_lt_iff_lt]

theorem defined_float_iff {a : Float} : isUndefined a = false ↔ ∃ x, place? a = some x := by
  have tested : isUndefined a = !(a.toModel.unpack.compare a.toModel.unpack == some .eq) := rfl
  rw [tested, compare_eq_place, ← place?]
  cases place? a <;> simp

instance : Ordered Float where
  le_total {a b} ha hb := by
    obtain ⟨x, hx⟩ := defined_float_iff.1 ha
    obtain ⟨y, hy⟩ := defined_float_iff.1 hb
    rcases le_total x y with le | le
    · exact .inl (le_float_iff.2 ⟨x, y, hx, hy, le⟩)
    · exact .inr (le_float_iff.2 ⟨y, x, hy, hx, le⟩)
  le_trans {a b c} hab hbc := by
    obtain ⟨x, y, hx, hy, first⟩ := le_float_iff.1 hab
    obtain ⟨y', z, hy', hz, second⟩ := le_float_iff.1 hbc
    obtain rfl : y = y' := Option.some.inj (hy.symm.trans hy')
    exact le_float_iff.2 ⟨x, z, hx, hz, first.trans second⟩
  lt_iff {a b} ha hb := by
    obtain ⟨x, hx⟩ := defined_float_iff.1 ha
    obtain ⟨y, hy⟩ := defined_float_iff.1 hb
    rw [lt_float_iff, le_float_iff]
    simp [hx, hy]

end Dungeon
