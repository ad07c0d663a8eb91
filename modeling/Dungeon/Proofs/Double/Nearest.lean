import Dungeon.Proofs.Double.Canonical
import Dungeon.Proofs.Rounding

/-!
# Doubles round to the nearest

A product of doubles is rounded by shifting its mantissa to 53 bits; two further bits remember enough of
what is shifted out to find the nearest mantissa. So an integer becomes the nearest double, unless it is
too large for one.
-/

namespace Dungeon.Double

open Decimal (Binary64)
open Float.Model (UnpackedFloat Format totalExponent)
open Float.Model.UnpackedFloat (ExtendedMantissa Sign roundWithAccuracy shiftToTargetExponent)

/-- A mantissa with its two remaining bits stands for a number: the first bit is a half, and the second
says whether there is anything else. -/
def Stands (em : ExtendedMantissa) (x : ℚ) : Prop :=
  ∃ r : ℚ, 0 ≤ r ∧ r < 1 / 2 ∧ (em.stickyBit = false ↔ r = 0) ∧
    x = em.mantissa + (if em.roundBit then 1 / 2 else 0) + r

theorem Stands.shiftRightOne {em : ExtendedMantissa} {x : ℚ} (h : Stands em x) :
    Stands em.shiftRightOne (x / 2) := by
  obtain ⟨r, nonneg, small, sticky, rfl⟩ := h
  refine ⟨(if em.roundBit then 1 / 4 else 0) + r / 2, ?_, ?_, ?_, ?_⟩
  · split <;> linarith
  · split <;> linarith
  · show (em.roundBit || em.stickyBit) = false ↔ _
    cases em.roundBit with
    | false =>
      rw [Bool.false_or, sticky]
      simp
    | true =>
      have positive : (1 / 4 : ℚ) + r / 2 ≠ 0 := by positivity
      simpa using positive
  · show _ = ((em.mantissa / 2 : ℕ) : ℚ) + (if em.mantissa % 2 != 0 then 1 / 2 else 0) + _
    have parts : (em.mantissa : ℚ) = 2 * (em.mantissa / 2 : ℕ) + (em.mantissa % 2 : ℕ) := by
      exact_mod_cast (Nat.div_add_mod _ 2).symm
    rw [parts]
    rcases Nat.mod_two_eq_zero_or_one em.mantissa with bit | bit <;> rw [bit] <;> split <;>
      norm_num <;> ring

theorem Stands.shiftRight {em : ExtendedMantissa} {x : ℚ} (h : Stands em x) (s : ℕ) :
    Stands (em >>> s) (x / 2 ^ s) := by
  induction s with
  | zero =>
    rw [pow_zero, div_one]
    exact h
  | succ s ih =>
    have half := ih.shiftRightOne
    rw [div_div, ← pow_succ] at half
    exact half

/-- The rounded mantissa is at most a half away. -/
theorem Stands.near {em : ExtendedMantissa} {x : ℚ} (h : Stands em x) :
    |x - em.roundedMantissa| ≤ 1 / 2 := by
  obtain ⟨m, half, sticky⟩ := em
  obtain ⟨r, nonneg, small, zero, rfl⟩ := h
  cases half with
  | false =>
    have kept : ExtendedMantissa.roundedMantissa ⟨m, false, sticky⟩ = m := by cases sticky <;> rfl
    rw [kept, abs_le]
    constructor <;> simp <;> linarith
  | true =>
    cases sticky with
    | false =>
      obtain rfl : r = 0 := zero.1 rfl
      have even : ExtendedMantissa.roundedMantissa ⟨m, true, false⟩ = m + m % 2 := rfl
      rw [even, abs_le]
      rcases Nat.mod_two_eq_zero_or_one m with bit | bit <;> rw [bit] <;> constructor <;> norm_num
    | true =>
      have up : ExtendedMantissa.roundedMantissa ⟨m, true, true⟩ = m + 1 := rfl
      rw [up, abs_le]
      push_cast
      constructor <;> simp <;> linarith

theorem targetExponent_eq (m : ℕ) (e : ℤ) :
    Format.binary64.targetExponent (totalExponent m e) = max (m.log2 + e - 52) (-1074) := by
  have bits : ((Format.binary64.mantissaBits : ℕ) : ℤ) = 53 := rfl
  have least : Format.binary64.minExponent = -1074 := rfl
  rw [Format.targetExponent, totalExponent, bits, least]
  congr 1
  omega

/-- Shifting a mantissa to the width of a double, or not at all when it has that width. -/
theorem shiftToTargetExponent_eq {m : ℕ} {e : ℤ} {s : ℕ} (wide : m.log2 = 52 + s)
    (least : -1074 ≤ e) :
    shiftToTargetExponent .binary64 m e .exact = ((⟨m, false, false⟩ : ExtendedMantissa) >>> s, e + s) := by
  have amount : (max (((m.log2 : ℕ) : ℤ) + e - 52) (-1074) - e).toNat = s := by omega
  rw [shiftToTargetExponent, Float.Model.UnpackedFloat.shiftToExponent, targetExponent_eq, amount]
  rfl

theorem shiftToTargetExponent_normal {m : ℕ} {e : ℤ} (normal : Normal m e) :
    shiftToTargetExponent .binary64 m e .exact = (⟨m, false, false⟩, e) := by
  have log : m.log2 = 52 + 0 := normal.log2_eq
  rw [shiftToTargetExponent_eq log normal.least, Nat.cast_zero, add_zero]
  rfl

/-- A normal number needs no rounding. -/
theorem roundWithAccuracy_normal {m : ℕ} {e : ℤ} (normal : Normal m e) (sign : Sign) (pos : 0 < m) :
    roundWithAccuracy .binary64 sign m e .exact = .finite sign m e pos := by
  have kept : ExtendedMantissa.roundedMantissa ⟨m, false, false⟩ = m := rfl
  rw [roundWithAccuracy, shiftToTargetExponent_normal normal]
  dsimp only
  rw [kept, shiftToTargetExponent_normal normal]
  dsimp only
  rw [dif_neg pos.ne']

/-- A mantissa of full width is rounded to one that may be a bit too wide; its value is the same after
another shift. -/
theorem exists_normal {q : ℕ} {g : ℤ} (low : 2 ^ 52 ≤ q) (high : q ≤ 2 ^ 53) (least : -1074 ≤ g) :
    ∃ m e, shiftToTargetExponent .binary64 q g .exact = (⟨m, false, false⟩, e) ∧ Normal m e ∧
      (m : ℚ) * 2 ^ e = q * 2 ^ g := by
  rcases high.lt_or_eq with narrow | rfl
  · have normal : Normal q g := ⟨⟨narrow, least, .inr low⟩, low⟩
    exact ⟨q, g, shiftToTargetExponent_normal normal, normal, rfl⟩
  · have log : (2 ^ 53 : ℕ).log2 = 52 + 1 := by rw [Nat.log2_two_pow]
    refine ⟨2 ^ 52, g + 1, ?_, ⟨⟨by norm_num, by omega, .inr (le_refl _)⟩, le_refl _⟩, ?_⟩
    · rw [shiftToTargetExponent_eq log least]
      rfl
    · rw [zpow_add_one₀ two_ne_zero]
      push_cast
      ring

/-- Shifted to full width, a mantissa is rounded to one that is at most half a unit away, and stays
between the same powers of two. -/
theorem rounded_between {m s : ℕ} (low : 2 ^ 52 * 2 ^ s ≤ m) (high : m < 2 ^ 53 * 2 ^ s) :
    ∃ q, ((⟨m, false, false⟩ : ExtendedMantissa) >>> s).roundedMantissa = q ∧
      2 ^ 52 ≤ q ∧ q ≤ 2 ^ 53 ∧ |(m : ℚ) / 2 ^ s - q| ≤ 1 / 2 := by
  have unit : (0 : ℚ) < 2 ^ s := by positivity
  have above : (2 : ℚ) ^ 52 ≤ m / 2 ^ s := (le_div_iff₀ unit).2 (by exact_mod_cast low)
  have below : (m : ℚ) / 2 ^ s < 2 ^ 53 := (div_lt_iff₀ unit).2 (by exact_mod_cast high)
  have stands : Stands ((⟨m, false, false⟩ : ExtendedMantissa) >>> s) (m / 2 ^ s) :=
    Stands.shiftRight ⟨0, le_refl _, by norm_num, by simp, by simp⟩ s
  obtain ⟨far, near⟩ := abs_le.1 stands.near
  generalize ((⟨m, false, false⟩ : ExtendedMantissa) >>> s).roundedMantissa = q at far near
  refine ⟨q, rfl, ?_, ?_, abs_le.2 ⟨far, near⟩⟩
  · have floor : ((2 ^ 52 : ℕ) : ℚ) < q + 1 := by
      push_cast
      linarith
    exact Nat.le_of_lt_succ (by exact_mod_cast floor)
  · have ceiling : (q : ℚ) < (2 ^ 53 : ℕ) + 1 := by
      push_cast
      linarith
    exact Nat.le_of_lt_succ (by exact_mod_cast ceiling)

/-- What a wide mantissa is rounded to is at most half a unit of the last place away. -/
theorem roundWithAccuracy_eq {m : ℕ} {e : ℤ} (wide : 2 ^ 52 ≤ m) (least : -1074 ≤ e) (sign : Sign) :
    ∃ m' e' pos, roundWithAccuracy .binary64 sign m e .exact = .finite sign m' e' pos ∧ Normal m' e' ∧
      ∃ (q : ℕ) (g : ℤ), (m' : ℚ) * 2 ^ e' = q * 2 ^ g ∧
        |(m : ℚ) * 2 ^ e - q * 2 ^ g| ≤ 2 ^ g / 2 ∧ (2 : ℚ) ^ 52 * 2 ^ g ≤ m * 2 ^ e := by
  have positive : m ≠ 0 := by
    rintro rfl
    norm_num at wide
  obtain ⟨s, log⟩ : ∃ s, m.log2 = 52 + s :=
    Nat.exists_eq_add_of_le ((Nat.le_log2 positive).2 wide)
  have low : 2 ^ 52 * 2 ^ s ≤ m := by
    rw [← pow_add, ← log]
    exact Nat.log2_self_le positive
  have high : m < 2 ^ 53 * 2 ^ s := by
    rw [← pow_add, show 53 + s = m.log2 + 1 by omega]
    exact Nat.lt_log2_self
  obtain ⟨q, rounded, floor, ceiling, near⟩ := rounded_between low high
  obtain ⟨m', e', shifted, normal, same⟩ := exists_normal floor ceiling (g := e + s) (by omega)
  have nonzero : m' ≠ 0 := by have := normal.wide; omega
  refine ⟨m', e', Nat.pos_of_ne_zero nonzero, ?_, normal, q, e + s, same, ?_, ?_⟩
  · rw [roundWithAccuracy, shiftToTargetExponent_eq log least]
    dsimp only
    rw [rounded, shifted]
    dsimp only
    rw [dif_neg nonzero]
  · have ulp : (0 : ℚ) < 2 ^ (e + s : ℤ) := zpow_pos two_pos _
    have scale : (m : ℚ) * 2 ^ e - q * 2 ^ (e + s : ℤ) = (m / 2 ^ s - q) * 2 ^ (e + s : ℤ) := by
      rw [zpow_add₀ two_ne_zero, zpow_natCast]
      field_simp
    rw [scale, abs_mul, abs_of_pos ulp]
    linarith [mul_le_mul_of_nonneg_right near ulp.le]
  · have power : (0 : ℚ) < 2 ^ e := zpow_pos two_pos e
    calc (2 : ℚ) ^ 52 * 2 ^ (e + s : ℤ) = ((2 ^ 52 * 2 ^ s : ℕ) : ℚ) * 2 ^ e := by
          rw [zpow_add₀ two_ne_zero, zpow_natCast]
          push_cast
          ring
      _ ≤ m * 2 ^ e := mul_le_mul_of_nonneg_right (by exact_mod_cast low) power.le

/-- No finite double is nearer to the number. -/
def Nearest (x : ℚ) (u : UnpackedFloat) : Prop :=
  ∀ w, UnpackedCanonical w → |x - unpackedValue u| ≤ |x - unpackedValue w|

/-- A positive normal double that is nearest to the number. -/
def NearestNormal (x : ℚ) (u : UnpackedFloat) : Prop :=
  ∃ m e pos, u = .finite .positive m e pos ∧ Normal m e ∧ Nearest x u

section

variable {x : ℚ} {q : ℕ} {g : ℤ}

/-- Of the multiples of a unit, one that is at most half a unit away is nearest. -/
theorem near_multiple (half : |x - q * 2 ^ g| ≤ 2 ^ g / 2) (k : ℤ) :
    |x - q * 2 ^ g| ≤ |x - k * 2 ^ g| := by
  have unit : (0 : ℚ) < 2 ^ g := zpow_pos two_pos g
  by_cases same : k = q
  · rw [same, Int.cast_natCast]
  · have apart : (1 : ℚ) ≤ |(k - q : ℤ)| := by
      exact_mod_cast Int.one_le_abs (sub_ne_zero.2 same)
    have far : (2 : ℚ) ^ g ≤ |(x - q * 2 ^ g) - (x - k * 2 ^ g)| := by
      have gap : (x - q * 2 ^ g) - (x - k * 2 ^ g) = ((k - q : ℤ) : ℚ) * 2 ^ g := by
        push_cast
        ring
      rw [gap, abs_mul, abs_of_pos unit]
      exact le_mul_of_one_le_left unit.le (by exact_mod_cast apart)
    have triangle := abs_sub (x - q * 2 ^ g) (x - k * 2 ^ g)
    linarith

/-- The doubles about a number are multiples of the unit, or the number is above them. -/
theorem nearest_of_half (half : |x - q * 2 ^ g| ≤ 2 ^ g / 2) (large : (2 : ℚ) ^ 52 * 2 ^ g ≤ x)
    {u : UnpackedFloat} (value : unpackedValue u = q * 2 ^ g) : Nearest x u := by
  intro w canonical
  rw [value]
  have zero : |x - q * 2 ^ g| ≤ |x - 0| := by simpa using near_multiple half 0
  cases w with
  | notANumber => exact zero
  | infinity s => exact zero
  | zero s => exact zero
  | finite s a f pos =>
    rcases le_or_gt g f with coarse | fine
    · obtain ⟨d, rfl⟩ := Int.le.dest coarse
      have multiple : unpackedValue (.finite s a (g + d) pos) = ((s.apply a * 2 ^ d : ℤ) : ℚ) * 2 ^ g := by
        rw [unpackedValue, zpow_add₀ two_ne_zero, zpow_natCast]
        push_cast
        ring
      rw [multiple]
      exact near_multiple half _
    · have power : (0 : ℚ) < 2 ^ f := zpow_pos two_pos f
      have small : unpackedValue (.finite s a f pos) ≤ (2 : ℚ) ^ 52 * 2 ^ g := by
        calc ((s.apply a : ℤ) : ℚ) * 2 ^ f ≤ a * 2 ^ f :=
              mul_le_mul_of_nonneg_right ((le_abs_self _).trans (abs_apply s a).le) power.le
          _ ≤ 2 ^ 53 * 2 ^ f :=
              mul_le_mul_of_nonneg_right (by exact_mod_cast canonical.narrow.le) power.le
          _ = 2 ^ 52 * 2 ^ (f + 1) := by
              rw [zpow_add_one₀ two_ne_zero]
              ring
          _ ≤ 2 ^ 52 * 2 ^ g :=
              mul_le_mul_of_nonneg_left (zpow_le_zpow_right₀ one_le_two (by omega)) (by positivity)
      have least := near_multiple half (2 ^ 52)
      rw [Int.cast_pow, Int.cast_ofNat, abs_of_nonneg (sub_nonneg.2 large)] at least
      linarith [le_abs_self (x - unpackedValue (.finite s a f pos))]

end

/-- Rounding a wide mantissa gives a nearest double. -/
theorem roundWithAccuracy_nearest {m : ℕ} {e : ℤ} (wide : 2 ^ 52 ≤ m) (least : -1074 ≤ e) :
    NearestNormal (m * 2 ^ e) (roundWithAccuracy .binary64 .positive m e .exact) := by
  obtain ⟨m', e', pos, rounded, normal, q, g, same, half, large⟩ :=
    roundWithAccuracy_eq wide least .positive
  rw [rounded]
  exact ⟨m', e', pos, rfl, normal, nearest_of_half half large same⟩

/-- After packing a double is still nearest, or it is infinite. -/
theorem NearestNormal.packed {x : ℚ} {u : UnpackedFloat} (h : NearestNormal x u) :
    (Float.Model.pack u).unpack = .infinity .positive ∨ NearestNormal x (Float.Model.pack u).unpack := by
  obtain ⟨m, e, pos, rfl, normal, near⟩ := h
  rw [unpack_pack .positive normal pos]
  split
  next => exact .inr ⟨m, e, pos, rfl, normal, near⟩
  next => exact .inl rfl

/-- An integer of at most 53 bits is shifted to the width of a mantissa. -/
theorem ofUInt64_eq {n d : ℕ} (log : n.log2 + d = 52) (positive : n ≠ 0) (small : n < 2 ^ 53) :
    UnpackedFloat.ofUInt64 .binary64 n.toUInt64 =
      roundWithAccuracy .binary64 .positive (n * 2 ^ d) (-d) .exact := by
  have kept : n.toUInt64.toNat = n := by
    rw [Nat.toUInt64_eq, UInt64.toNat_ofNat', Nat.mod_eq_of_lt (by omega)]
  have above : compare (n : ℤ) 0 = .gt := compare_gt_iff_gt.2 (by omega)
  have amount : (0 - max (((n.log2 : ℕ) : ℤ) + 0 - 52) (-1074)).toNat = d := by omega
  rw [UnpackedFloat.ofUInt64, kept, UnpackedFloat.ofNat, UnpackedFloat.ofInt,
    UnpackedFloat.normalize, above]
  dsimp only
  rw [UnpackedFloat.round, Int.toNat_natCast, UnpackedFloat.decreaseExponent, targetExponent_eq, amount,
    Nat.shiftLeft_eq, zero_sub]

/-- An integer of at most 53 bits is a double. -/
theorem exists_unpack_ofUInt64 {n : ℕ} (positive : n ≠ 0) (small : n < 2 ^ 53) :
    ∃ (d : ℕ) (pos : 0 < n * 2 ^ d), (Float.Model.ofUInt64 n.toUInt64).unpack = .finite .positive (n * 2 ^ d) (-d) pos ∧
      2 ^ 52 ≤ n * 2 ^ d ∧ d ≤ 52 := by
  have short : n.log2 < 53 := (Nat.log2_lt positive).2 small
  obtain ⟨d, log⟩ : ∃ d, n.log2 + d = 52 := ⟨52 - n.log2, by omega⟩
  have wide : 2 ^ 52 ≤ n * 2 ^ d := by
    rw [← log, pow_add]
    exact Nat.mul_le_mul_right _ (Nat.log2_self_le positive)
  have narrow : n * 2 ^ d < 2 ^ 53 := by
    have exponent : 53 = n.log2 + 1 + d := by omega
    rw [exponent, pow_add]
    exact Nat.mul_lt_mul_of_pos_right Nat.lt_log2_self (by positivity)
  have normal : Normal (n * 2 ^ d) (-d) := ⟨⟨narrow, by omega, .inr wide⟩, wide⟩
  have pos : 0 < n * 2 ^ d := by positivity
  refine ⟨d, pos, ?_, wide, by omega⟩
  rw [Float.Model.ofUInt64, ofUInt64_eq log positive small, roundWithAccuracy_normal normal .positive pos,
    unpack_pack .positive normal pos, if_pos (by omega)]

/-- A natural number of at most 53 bits is multiplied by the power of ten that is one. -/
theorem toModel_ofNat_of_lt {n : ℕ} (positive : n ≠ 0) (small : n < 2 ^ 53) :
    ∃ d : ℕ, d ≤ 52 ∧ 2 ^ 52 ≤ n * 2 ^ d ∧ (Float.ofNat n).toModel =
      .pack (roundWithAccuracy .binary64 .positive (n * 2 ^ d * 2 ^ 52) (-d + -52) .exact) := by
  obtain ⟨d, pos, converted, wide, least⟩ := exists_unpack_ofUInt64 positive small
  refine ⟨d, least, wide, ?_⟩
  have one : (getElem Float.exactlyRepresentablePowersOfTen 0 (by decide)).toModel.unpack =
      .finite .positive (2 ^ 52) (-52) (by decide) := by rfl
  show (Float.ofScientific n false 0).toModel = _
  rw [Float.ofScientific, dif_pos ⟨small, by decide⟩]
  show Float.Model.pack (UnpackedFloat.mul .binary64 (Float.Model.ofUInt64 n.toUInt64).unpack
    (getElem Float.exactlyRepresentablePowersOfTen 0 (by decide)).toModel.unpack) = _
  rw [converted, one]
  rfl

/-- A larger one is rounded from a mantissa with 53 more bits. -/
theorem toModel_ofNat_of_ge {n : ℕ} (large : 2 ^ 53 ≤ n) : (Float.ofNat n).toModel =
    .pack (roundWithAccuracy .binary64 .positive (n * 2 ^ 53) (-53) .exact) := by
  show (Float.ofScientific n false 0).toModel = _
  rw [Float.ofScientific, dif_neg (fun h => absurd h.1 (by omega))]
  show Float.Model.pack (UnpackedFloat.ofScientific .binary64 n 0) = _
  have positive : n ≠ 0 := by omega
  have tiny : ¬ (0 : ℤ) < -((2 : ℤ) ^ 11 + n.log2) := by omega
  rw [UnpackedFloat.ofScientific, dif_neg positive, if_neg (by decide), if_neg tiny,
    if_pos (le_refl _)]
  show Float.Model.pack (roundWithAccuracy .binary64 .positive (n <<< 53 * 1) (-53 + 0) .exact) = _
  rw [Nat.shiftLeft_eq, mul_one, add_zero]

/-- A natural number becomes zero, infinite, or a double that is nearest to it. -/
theorem unpack_ofNat (n : ℕ) :
    n = 0 ∧ (Float.ofNat n).toModel.unpack = .zero .positive ∨
      (Float.ofNat n).toModel.unpack = .infinity .positive ∨
      NearestNormal n (Float.ofNat n).toModel.unpack := by
  rcases eq_or_ne n 0 with rfl | positive
  · exact .inl ⟨rfl, rfl⟩
  right
  rcases lt_or_ge n (2 ^ 53) with small | large
  · obtain ⟨d, least, wide, made⟩ := toModel_ofNat_of_lt positive small
    have same : ((n * 2 ^ d * 2 ^ 52 : ℕ) : ℚ) * 2 ^ (-d + -52 : ℤ) = n := by
      rw [zpow_add₀ two_ne_zero, zpow_neg, zpow_natCast]
      push_cast
      field_simp
      norm_num
    rw [made, ← same]
    exact (roundWithAccuracy_nearest (by omega) (by omega)).packed
  · have same : ((n * 2 ^ 53 : ℕ) : ℚ) * 2 ^ (-53 : ℤ) = n := by
      push_cast
      norm_num
      ring
    rw [toModel_ofNat_of_ge large, ← same]
    exact (roundWithAccuracy_nearest (by omega) (by omega)).packed

/-- An integer becomes a nearest double, or an infinite one. -/
theorem nearest_ofInt (n : ℤ) (finite : (Float.ofInt n).toModel.unpack.isFinite = true) :
    Nearest n (Float.ofInt n).toModel.unpack := by
  intro w canonical
  cases n with
  | ofNat n =>
    have made : (Float.ofInt (.ofNat n)).toModel = (Float.ofNat n).toModel := rfl
    rw [made] at finite ⊢
    rcases unpack_ofNat n with ⟨rfl, zero⟩ | infinite | ⟨m, e, pos, -, -, near⟩
    · rw [zero]
      simp [unpackedValue]
    · rw [infinite] at finite
      cases finite
    · exact near w canonical
  | negSucc n =>
    have made : (Float.ofInt (.negSucc n)).toModel = .pack (Float.ofNat (n + 1)).toModel.unpack.neg := rfl
    rw [made] at finite ⊢
    rcases unpack_ofNat (n + 1) with ⟨zero, -⟩ | infinite | ⟨m, e, pos, found, normal, near⟩
    · cases zero
    · rw [infinite] at finite
      cases finite
    · rw [found] at near finite ⊢
      have kept : (Float.Model.pack (UnpackedFloat.neg (.finite .positive m e pos))).unpack =
          UnpackedFloat.neg (.finite .positive m e pos) := by
        have packed : (Float.Model.pack (UnpackedFloat.neg (.finite .positive m e pos))).unpack = _ :=
          unpack_pack .negative normal pos
        split at packed
        next => exact packed
        next =>
          rw [packed] at finite
          cases finite
      have mirrored := near w.neg (canonical_neg canonical)
      rw [value_neg, ← abs_neg, ← abs_neg ((n + 1 : ℕ) - -unpackedValue w)] at mirrored
      rw [kept, value_neg, Int.cast_negSucc]
      convert mirrored using 2 <;> ring

/-- An integer becomes a double of the arithmetic only if that is finite. -/
theorem of_ofInt? {a : Float} {n : ℤ} (made : Scalar.ofInt? n = some a) :
    a = Float.ofInt n ∧ a.toModel.unpack.isFinite = true := by
  change (if (Float.ofInt n).isFinite then some (Float.ofInt n) else none) = some a at made
  split at made
  next finite =>
    obtain rfl := Option.some.inj made
    exact ⟨rfl, finite⟩
  next => cases made

/-- A double that is neither finite nor undefined is infinite. -/
theorem infinite_or_undefined {a : Float} (defined : Scalar.isUndefined a = false)
    (infinite : a.toModel.unpack.isFinite = false) : ∃ s, a.toModel.unpack = .infinity s := by
  obtain ⟨x, place⟩ := defined_float_iff.1 defined
  rw [place?] at place
  cases unpacked : a.toModel.unpack with
  | notANumber =>
    rw [unpacked] at place
    cases place
  | infinity s => exact ⟨s, rfl⟩
  | zero s =>
    rw [unpacked] at infinite
    cases infinite
  | finite s m e pos =>
    rw [unpacked] at infinite
    cases infinite

/-- Doubles compare by their values, and integers become the nearest of them. -/
instance : Rounding Float where
  value x := unpackedValue x.toModel.unpack
  defined_of_finite finite := by
    obtain ⟨x, place, -⟩ := exists_place finite
    exact defined_float_iff.2 ⟨x, place⟩
  le_iff {a b} fa fb := by
    obtain ⟨x, pa, -⟩ := exists_place fa
    obtain ⟨y, pb, -⟩ := exists_place fb
    rw [← place_le_iff (canonical_unpack a) (canonical_unpack b) fa fb pa pb, le_float_iff]
    simp [place?, pa, pb]
  compareInt_eq {a} n finite := by
    show (Binary64.ofFloat a).compareInt n = _
    rw [ofFloat_eq, compareInt_exactly finite]
  beyond {a} defined infinite := by
    obtain ⟨s, unpacked⟩ := infinite_or_undefined defined infinite
    have compared (n : ℤ) : Scalar.compareInt a n = (exactly (.infinity s)).compareInt n := by
      rw [← unpacked, ← ofFloat_eq]
      rfl
    have place : place? a = some (toLex (s.apply 2, toLex (0, 0))) := by
      rw [place?, unpacked]
      rfl
    cases s with
    | negative =>
      refine .inl ⟨compared, fun b fb => ?_⟩
      obtain ⟨y, pb, above, -⟩ := exists_place (u := b.toModel.unpack) fb
      exact lt_float_iff.2 ⟨_, y, place, pb, above⟩
    | positive =>
      refine .inr ⟨compared, fun b fb => ?_⟩
      obtain ⟨y, pb, -, below⟩ := exists_place (u := b.toModel.unpack) fb
      exact lt_float_iff.2 ⟨y, _, pb, place, below⟩
  finite_of_ofInt made := (of_ofInt? made).2
  nearest {a n} made b _ := by
    obtain ⟨rfl, finite⟩ := of_ofInt? made
    exact nearest_ofInt n finite _ (canonical_unpack b)
  finite_zero := rfl
  value_zero := rfl
  finite_one := rfl
  value_one := by
    have one : (1.0 : Float).toModel.unpack = .finite .positive (2 ^ 52) (-52) (by decide) := by rfl
    rw [one]
    norm_num [unpackedValue, Sign.apply]

end Dungeon.Double
