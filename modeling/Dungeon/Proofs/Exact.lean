import Dungeon.Scalar
import Mathlib.Algebra.Order.Floor.Ring
import Mathlib.Data.Rat.Floor
import Mathlib.Tactic.Linarith
import Mathlib.Tactic.NormNum.OfScientific

/-!
# Exact arithmetic

Geometry is reasoned about without rounding: numbers have rational values, sums, products and
comparisons are those of the values. What roots, sines and cosines give is left open, since no
rational number has to be their value.
-/

namespace Dungeon

/-- An arithmetic of rational values. -/
class Exact (α : Type) [Scalar α] where
  value : α → ℚ
  value_add (a b : α) : value (a + b) = value a + value b
  value_sub (a b : α) : value (a - b) = value a - value b
  value_mul (a b : α) : value (a * b) = value a * value b
  value_div (a b : α) : value (a / b) = value a / value b
  value_neg (a : α) : value (-a) = -value a
  value_scientific (m : Nat) (small : Bool) (e : Nat) :
    value (OfScientific.ofScientific m small e) = OfScientific.ofScientific m small e
  value_abs (a : α) : value (Scalar.abs a) = |value a|
  lt_iff (a b : α) : Scalar.lt a b = true ↔ value a < value b
  le_iff (a b : α) : Scalar.le a b = true ↔ value a ≤ value b
  eq_iff (a b : α) : Scalar.eq a b = true ↔ value a = value b
  pi_pos : 0 < value Scalar.pi

namespace Exact

attribute [simp] value_add value_sub value_mul value_div value_neg value_scientific value_abs lt_iff
  le_iff eq_iff

variable {α : Type} [Scalar α] [Exact α]

@[simp] theorem value_min (a b : α) : value (Scalar.min a b) = min (value a) (value b) := by
  unfold Scalar.min
  split
  next less => exact (min_eq_right ((lt_iff b a).1 less).le).symm
  next least => exact (min_eq_left (not_lt.1 (mt (lt_iff b a).2 least))).symm

@[simp] theorem value_max (a b : α) : value (Scalar.max a b) = max (value a) (value b) := by
  unfold Scalar.max
  split
  next less => exact (max_eq_right ((lt_iff a b).1 less).le).symm
  next most => exact (max_eq_left (not_lt.1 (mt (lt_iff a b).2 most))).symm

end Exact

/-- The rationals themselves. Roots and the other functions give zero. -/
instance : Scalar ℚ where
  lt a b := decide (a < b)
  le a b := decide (a ≤ b)
  eq a b := decide (a = b)
  compareInt x n := some (compare x n)
  ofInt? n := some n
  ratio? m n := some (m / n)
  divides x n := decide (x ≠ 0 ∧ ((n : ℚ) / x).den = 1)
  floor x := .ok ⌊x⌋
  truncate x := .ok (if 0 ≤ x then ⌊x⌋ else ⌈x⌉)
  isFinite _ := true
  abs x := |x|
  sqrt _ := 0
  cos _ := 0
  sin _ := 0
  exp _ := 0
  log _ := 0
  power _ _ := 0
  square? x := some (x * x)
  pi := 355 / 113
  sum xs := .ok xs.sum
  plainText x := toString x
  briefText x := toString x
  fixedText x := toString x
  ofText? _ := none

instance : Exact ℚ where
  value x := x
  value_add _ _ := rfl
  value_sub _ _ := rfl
  value_mul _ _ := rfl
  value_div _ _ := rfl
  value_neg _ := rfl
  value_scientific _ _ _ := rfl
  value_abs _ := rfl
  lt_iff _ _ := decide_eq_true_iff
  le_iff _ _ := decide_eq_true_iff
  eq_iff _ _ := decide_eq_true_iff
  pi_pos := by
    show (0 : ℚ) < 355 / 113
    norm_num

end Dungeon
