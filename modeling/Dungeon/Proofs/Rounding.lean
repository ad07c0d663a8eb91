import Dungeon.Fault
import Dungeon.Proofs.Exact
import Dungeon.Proofs.Ordered

/-!
# Integers among the numbers of an arithmetic

A number in a file is an integer of any size or a number of the arithmetic. The two kinds are in one
order, since an arithmetic compares its numbers with integers exactly. An integer that is to become a
number of the arithmetic is rounded to one that is as near as any, and rounding keeps the order.
-/

namespace Dungeon

open Scalar (isUndefined compareInt ofInt?)

/-- An arithmetic whose finite numbers have rational values. Integers compare with these values and
are rounded to the nearest of them. Infinite numbers lie on one side of everything finite. -/
class Rounding (α : Type) [Scalar α] extends Ordered α where
  value : α → ℚ
  defined_of_finite {a : α} : Scalar.isFinite a = true → isUndefined a = false
  le_iff {a b : α} : Scalar.isFinite a = true → Scalar.isFinite b = true →
    (Scalar.le a b = true ↔ value a ≤ value b)
  compareInt_eq {a : α} (n : ℤ) : Scalar.isFinite a = true → compareInt a n = some (compare (value a) n)
  beyond {a : α} : isUndefined a = false → Scalar.isFinite a = false →
    (∀ n, compareInt a n = some .lt) ∧ (∀ b, Scalar.isFinite b = true → Scalar.lt a b = true) ∨
      (∀ n, compareInt a n = some .gt) ∧ ∀ b, Scalar.isFinite b = true → Scalar.lt b a = true
  finite_of_ofInt {a : α} {n : ℤ} : ofInt? n = some a → Scalar.isFinite a = true
  nearest {a : α} {n : ℤ} : ofInt? n = some a →
    ∀ b, Scalar.isFinite b = true → |n - value a| ≤ |n - value b|
  finite_zero : Scalar.isFinite (0.0 : α) = true
  value_zero : value (0.0 : α) = 0
  finite_one : Scalar.isFinite (1.0 : α) = true
  value_one : value (1.0 : α) = 1

/-- Rational numbers need no rounding. -/
instance : Rounding ℚ where
  le_total {a b} _ _ := by simpa [Scalar.le] using le_total a b
  le_trans {a b c} hab hbc := by
    simp only [Scalar.le, decide_eq_true_eq] at hab hbc ⊢
    exact hab.trans hbc
  lt_iff {a b} _ _ := by simp [Scalar.lt, Scalar.le]
  value x := x
  defined_of_finite {a} _ := by simp [isUndefined, Scalar.eq]
  le_iff _ _ := decide_eq_true_iff
  compareInt_eq _ _ := rfl
  beyond {a} _ infinite := nomatch infinite
  finite_of_ofInt _ := rfl
  nearest {a n} rounded b _ := by
    obtain rfl : (n : ℚ) = a := Option.some.inj rounded
    rw [sub_self, abs_zero]
    exact abs_nonneg _
  finite_zero := rfl
  value_zero := by norm_num
  finite_one := rfl
  value_one := by norm_num

section

variable {a b : ℚ}

/-- A number that is as near as any to one above it is not above what is there. -/
theorem le_of_nearest {x : ℚ} (near : |x - a| ≤ |x - b|) (le : x ≤ b) : a ≤ b := by
  rw [abs_of_nonpos (sub_nonpos.2 le)] at near
  linarith [neg_abs_le (x - a)]

theorem ge_of_nearest {x : ℚ} (near : |x - a| ≤ |x - b|) (le : b ≤ x) : b ≤ a := by
  rw [abs_of_nonneg (sub_nonneg.2 le)] at near
  linarith [le_abs_self (x - a)]

/-- Only numbers that lie on the two sides of the middle are rounded apart. -/
theorem le_of_nearest_lt {x y : ℚ} (first : |x - a| ≤ |x - b|) (second : |y - b| ≤ |y - a|)
    (less : x < y) : a ≤ b := by
  by_contra! above
  have low : a + b ≤ 2 * x := by
    rcases abs_cases (x - a) with ⟨h, _⟩ | ⟨h, _⟩ <;>
      rcases abs_cases (x - b) with ⟨h', _⟩ | ⟨h', _⟩ <;> linarith
  have high : 2 * y ≤ a + b := by
    rcases abs_cases (y - a) with ⟨h, _⟩ | ⟨h, _⟩ <;>
      rcases abs_cases (y - b) with ⟨h', _⟩ | ⟨h', _⟩ <;> linarith
  linarith

end

namespace Number

variable {α : Type} [Scalar α]

/-- An integer, or a number that is not undefined. -/
def Defined : Number α → Prop
  | whole _ => True
  | real x => isUndefined x = false

variable [Rounding α] {m n : Number α}

theorem exists_compareInt {a : α} (defined : isUndefined a = false) (n : ℤ) :
    ∃ o, Scalar.compareInt a n = some o := by
  cases finite : Scalar.isFinite a with
  | true => exact ⟨_, Rounding.compareInt_eq n finite⟩
  | false =>
    rcases Rounding.beyond defined finite with ⟨low, -⟩ | ⟨high, -⟩
    · exact ⟨_, low n⟩
    · exact ⟨_, high n⟩

/-- Of two numbers, one is at most the other or above it. -/
theorem le_eq_not_lt (hm : m.Defined) (hn : n.Defined) : m.le n = !n.lt m := by
  cases m with
  | whole m =>
    cases n with
    | whole n =>
      rw [Bool.eq_iff_iff]
      simp only [le, lt, eq, Bool.or_eq_true, decide_eq_true_eq, beq_iff_eq, Bool.not_eq_true',
        decide_eq_false_iff_not]
      omega
    | real y =>
      obtain ⟨o, compared⟩ := exists_compareInt hn m
      simp only [le, lt, eq, compared]
      cases o <;> rfl
  | real x =>
    cases n with
    | whole n =>
      obtain ⟨o, compared⟩ := exists_compareInt hm n
      simp only [le, lt, eq, compared]
      cases o <;> rfl
    | real y =>
      rw [Bool.eq_iff_iff, Bool.not_eq_true', Bool.eq_false_iff]
      exact (not_iff_comm.1 (Ordered.lt_iff hn hm).symm).symm

theorem le_of_not_lt (hm : m.Defined) (hn : n.Defined) (below : n.lt m = false) : m.le n = true := by
  rw [le_eq_not_lt hm hn, below]
  rfl

theorem lt_irrefl (defined : n.Defined) : n.lt n = false := by
  cases n with
  | whole n => simp [lt]
  | real x =>
    have least := Ordered.le_refl defined
    rw [lt, Bool.eq_false_iff, ne_eq, Ordered.lt_iff defined defined, not_not]
    exact least

/-- What the order says of an integer and a finite number. -/
theorem whole_le_real {a : α} {n : ℤ} (finite : Scalar.isFinite a = true) :
    (whole n).le (real a) = true ↔ (n : ℚ) ≤ Rounding.value a := by
  simp only [le, lt, eq, Rounding.compareInt_eq n finite, Bool.or_eq_true, beq_iff_eq,
    Option.some.injEq, compare_gt_iff_gt, compare_eq_iff_eq]
  rw [le_iff_lt_or_eq, eq_comm]

theorem real_le_whole {a : α} {n : ℤ} (finite : Scalar.isFinite a = true) :
    (real a).le (whole n) = true ↔ Rounding.value a ≤ n := by
  simp only [le, lt, eq, Rounding.compareInt_eq n finite, Bool.or_eq_true, beq_iff_eq,
    Option.some.injEq, compare_lt_iff_lt, compare_eq_iff_eq]
  rw [le_iff_lt_or_eq]

theorem defined_of_toScalar {x : α} (defined : n.Defined) (converted : n.toScalar? = some x) :
    isUndefined x = false := by
  cases n with
  | whole n => exact Rounding.defined_of_finite (Rounding.finite_of_ofInt converted)
  | real a =>
    obtain rfl : a = x := Option.some.inj converted
    exact defined

/-- Rounding keeps the order of integers. -/
theorem ofInt_le_ofInt {m n : ℤ} {x y : α} (order : m ≤ n) (left : ofInt? m = some x)
    (right : ofInt? n = some y) : Scalar.le x y = true := by
  have fx : Scalar.isFinite x = true := Rounding.finite_of_ofInt left
  have fy : Scalar.isFinite y = true := Rounding.finite_of_ofInt right
  rw [Rounding.le_iff fx fy]
  rcases order.lt_or_eq with less | rfl
  · exact le_of_nearest_lt (Rounding.nearest left y fy) (Rounding.nearest right x fx)
      (Int.cast_lt.2 less)
  · cases left.symm.trans right
    exact le_refl _

/-- An integer that is not above a number is not rounded to one above it. -/
theorem ofInt_le {m : ℤ} {x b : α} (defined : isUndefined b = false)
    (le : (whole m).le (real b) = true) (rounded : ofInt? m = some x) : Scalar.le x b = true := by
  have fx : Scalar.isFinite x = true := Rounding.finite_of_ofInt rounded
  cases fb : Scalar.isFinite b with
  | true =>
    rw [Rounding.le_iff fx fb]
    exact le_of_nearest (Rounding.nearest rounded b fb) ((whole_le_real fb).1 le)
  | false =>
    rcases Rounding.beyond defined fb with ⟨low, -⟩ | ⟨-, above⟩
    · simp [Number.le, lt, eq, low] at le
    · exact Ordered.le_of_lt (Rounding.defined_of_finite fx) defined (above x fx)

theorem le_ofInt {n : ℤ} {a y : α} (defined : isUndefined a = false)
    (le : (real a).le (whole n) = true) (rounded : ofInt? n = some y) : Scalar.le a y = true := by
  have fy : Scalar.isFinite y = true := Rounding.finite_of_ofInt rounded
  cases fa : Scalar.isFinite a with
  | true =>
    rw [Rounding.le_iff fa fy]
    exact ge_of_nearest (Rounding.nearest rounded a fa) ((real_le_whole fa).1 le)
  | false =>
    rcases Rounding.beyond defined fa with ⟨-, below⟩ | ⟨high, -⟩
    · exact Ordered.le_of_lt defined (Rounding.defined_of_finite fy) (below y fy)
    · simp [Number.le, lt, eq, high] at le

/-- Numbers of a file keep their order when they become numbers of the arithmetic. -/
theorem toScalar_le {x y : α} (hm : m.Defined) (hn : n.Defined) (le : m.le n = true)
    (left : m.toScalar? = some x) (right : n.toScalar? = some y) : Scalar.le x y = true := by
  cases m with
  | whole m =>
    cases n with
    | whole n =>
      have order : m ≤ n := by
        simpa [Number.le, lt, eq, ← le_iff_lt_or_eq] using le
      exact ofInt_le_ofInt order left right
    | real b =>
      obtain rfl : b = y := Option.some.inj right
      exact ofInt_le hn le left
  | real a =>
    obtain rfl : a = x := Option.some.inj left
    cases n with
    | whole n => exact le_ofInt hm le right
    | real b =>
      obtain rfl : b = y := Option.some.inj right
      exact le

/-- A positive number of a file becomes a positive number of the arithmetic. -/
theorem toScalar_pos {x : α} (defined : n.Defined) (positive : n.le (whole 0) = false)
    (converted : n.toScalar? = some x) : Scalar.le x 0.0 = false := by
  have fz := Rounding.finite_zero (α := α)
  have fo := Rounding.finite_one (α := α)
  rw [Bool.eq_false_iff]
  cases n with
  | whole n =>
    have fx : Scalar.isFinite x = true := Rounding.finite_of_ofInt converted
    have order : 1 ≤ n := by
      simp [Number.le, lt, eq] at positive
      omega
    -- One is not above the integer, so what is nearest is not below one.
    have least : 1 ≤ Rounding.value x := by
      refine ge_of_nearest ?_ (x := n) (by exact_mod_cast order)
      simpa [Rounding.value_one] using Rounding.nearest converted 1.0 fo
    rw [ne_eq, Rounding.le_iff fx fz, Rounding.value_zero]
    linarith
  | real a =>
    obtain rfl : a = x := Option.some.inj converted
    cases fx : Scalar.isFinite a with
    | true =>
      have above : ¬ Rounding.value a ≤ (0 : ℤ) := by
        rw [← real_le_whole fx, positive]
        exact Bool.false_ne_true
      rw [ne_eq, Rounding.le_iff fx fz, Rounding.value_zero]
      simpa using above
    | false =>
      rcases Rounding.beyond defined fx with ⟨low, -⟩ | ⟨-, above⟩
      · simp [Number.le, lt, eq, low] at positive
      · exact (Ordered.lt_iff (Rounding.defined_of_finite fz) defined).1 (above 0.0 fz)

end Number

end Dungeon
