import Dungeon.Proofs.Double.Nearest

/-!
# Parts of a count

A product of doubles is a double nearest to the product of their values, so it is off by a small part
of it. A fraction of a count is therefore close to the exact one, although the count and the product are
both rounded; its integer part is taken exactly.
-/

namespace Dungeon.Double

open Decimal (Binary64)
open Float.Model (UnpackedFloat)
open Float.Model.UnpackedFloat (Sign roundWithAccuracy)

theorem value_positive (m : ℕ) (e : ℤ) (pos : 0 < m) :
    unpackedValue (.finite .positive m e pos) = m * 2 ^ e := by
  simp [unpackedValue, Sign.apply]

/-- What is nearest to a number that is not tiny is off by a small part of it. -/
theorem Nearest.close {x : ℚ} {u : UnpackedFloat} (near : Nearest x u)
    (large : (2 : ℚ) ^ (-200 : ℤ) ≤ x) : |x - unpackedValue u| ≤ x / 2 ^ 52 := by
  have positive : 0 < x := (zpow_pos two_pos _).trans_le large
  obtain ⟨k, low, high⟩ := exists_mem_Ico_zpow positive one_lt_two
  have least : -200 < k + 1 := (zpow_lt_zpow_iff_right₀ one_lt_two).1 (large.trans_lt high)
  have unit : (0 : ℚ) < 2 ^ (k - 52) := zpow_pos two_pos _
  have full : (2 : ℚ) ^ 52 * 2 ^ (k - 52) = 2 ^ k := by
    rw [← zpow_natCast, ← zpow_add₀ two_ne_zero]
    congr 1
    omega
  have nonneg : 0 ≤ x / 2 ^ (k - 52) := div_nonneg positive.le unit.le
  -- The double just below is less than a unit of its last place away.
  obtain ⟨q, floor⟩ : ∃ q, ⌊x / 2 ^ (k - 52)⌋₊ = q := ⟨_, rfl⟩
  obtain ⟨below, above⟩ := (Nat.floor_eq_iff nonneg).1 floor
  rw [le_div_iff₀ unit] at below
  rw [div_lt_iff₀ unit] at above
  have wide : 2 ^ 52 ≤ q := by
    rw [← floor, Nat.le_floor_iff nonneg, le_div_iff₀ unit, Nat.cast_pow, Nat.cast_ofNat, full]
    exact low
  have narrow : q < 2 ^ 53 := by
    rw [← floor, Nat.floor_lt nonneg, div_lt_iff₀ unit]
    push_cast
    calc x < 2 ^ (k + 1) := high
      _ = 2 ^ 53 * 2 ^ (k - 52) := by
        rw [zpow_add_one₀ two_ne_zero, ← full]
        ring
  have candidate := near (.finite .positive q (k - 52) (by omega))
    ⟨narrow, by omega, .inr wide⟩
  rw [value_positive] at candidate
  calc |x - unpackedValue u| ≤ |x - q * 2 ^ (k - 52)| := candidate
    _ = x - q * 2 ^ (k - 52) := abs_of_nonneg (sub_nonneg.2 below)
    _ ≤ 2 ^ (k - 52) := by linarith
    _ ≤ x / 2 ^ 52 := by
      rw [le_div_iff₀ (by positivity), mul_comm, full]
      exact low

/-- The integer part of a double is that of its value. -/
theorem floorScaled_eq (k e : ℤ) : Binary64.floorScaled k e = ⌊(k : ℚ) * 2 ^ e⌋ := by
  rw [Binary64.floorScaled]
  split
  next whole =>
    obtain ⟨d, rfl⟩ := Int.eq_ofNat_of_zero_le whole
    have power : ((Nat.pow 2 d : ℕ) : ℚ) = 2 ^ d := Nat.cast_pow 2 d
    rw [Int.toNat_natCast, zpow_natCast, ← power, ← Int.cast_natCast (R := ℚ), ← Int.cast_mul,
      Int.floor_intCast]
  next small =>
    obtain ⟨d, rfl⟩ := Int.exists_eq_neg_ofNat (not_le.1 small).le
    have power : ((Nat.pow 2 d : ℕ) : ℚ) = 2 ^ d := Nat.cast_pow 2 d
    rw [neg_neg, Int.toNat_natCast, zpow_neg, zpow_natCast, ← div_eq_mul_inv, ← power,
      Rat.floor_intCast_div_natCast, Int.fdiv_eq_ediv_of_nonneg _ (Int.natCast_nonneg _)]

theorem floor_of_finite {a : Float} {negative : Bool} {m : ℕ} {e : ℤ}
    (parts : Binary64.ofFloat a = .finite negative m e) :
    Scalar.floor a = .ok (Binary64.floorScaled (Binary64.signed negative m) e) := by
  simp only [Scalar.floor, parts]

theorem floor_of_infinite {a : Float} {negative : Bool}
    (parts : Binary64.ofFloat a = .infinite negative) : Scalar.floor a = .error .infinite := by
  simp only [Scalar.floor, parts]

theorem floor_eq {a : Float} (finite : a.toModel.unpack.isFinite = true) :
    Scalar.floor a = .ok ⌊unpackedValue a.toModel.unpack⌋ := by
  have signed (s : Sign) (m : ℕ) : Binary64.signed (s == .negative) m = s.apply m := by
    cases s <;> rfl
  have parts := ofFloat_eq a
  cases unpacked : a.toModel.unpack with
  | notANumber =>
    rw [unpacked] at finite
    cases finite
  | infinity s =>
    rw [unpacked] at finite
    cases finite
  | zero s =>
    have nothing : s.apply (0 : ℕ) = 0 := by cases s <;> rfl
    rw [unpacked, exactly] at parts
    rw [floor_of_finite parts, signed, floorScaled_eq, nothing, Int.cast_zero, zero_mul]
    rfl
  | finite s m e pos =>
    rw [unpacked, exactly] at parts
    rw [floor_of_finite parts, signed, floorScaled_eq]
    rfl

/-- A finite double has no larger exponent than this one. -/
theorem exponent_le {a : Float} {s : Sign} {m : ℕ} {e : ℤ} {pos : 0 < m}
    (unpacked : a.toModel.unpack = .finite s m e pos) : e ≤ 971 := by
  have taken := ofFloat_eq a
  rw [unpacked, exactly, Binary64.ofFloat] at taken
  split at taken
  next => split at taken <;> cases taken
  next finite =>
    split at taken
    next =>
      obtain ⟨-, -, rfl⟩ := Binary64.finite.inj taken
      omega
    next =>
      obtain ⟨-, -, rfl⟩ := Binary64.finite.inj taken
      have bits : a.toBits.toNat / Binary64.hiddenBit % 2048 < 2048 := Nat.mod_lt _ (by decide)
      omega

/-- A positive double of full width that is at most one, with the value that it has. -/
structure Fraction (p : Float) (v : ℚ) : Prop where
  unpacked : ∃ m e pos, p.toModel.unpack = .finite .positive m e pos ∧ Normal m e ∧ -64 ≤ e ∧
    (m : ℚ) * 2 ^ e = v
  most : v ≤ 1

/-- A double with a mantissa of full width and an exponent in this range is such a fraction. -/
theorem Fraction.of_unpacked {p : Float} {m d : ℕ} {pos : 0 < m}
    (unpacked : p.toModel.unpack = .finite .positive m (-d) pos) (wide : 2 ^ 52 ≤ m ∧ m < 2 ^ 53)
    (range : 53 ≤ d ∧ d ≤ 64) : Fraction p (m / 2 ^ d) where
  unpacked := by
    refine ⟨m, -d, pos, unpacked, ⟨⟨wide.2, by omega, .inr wide.1⟩, wide.1⟩, by omega, ?_⟩
    rw [zpow_neg, zpow_natCast, div_eq_mul_inv]
  most := by
    rw [div_le_one (by positivity)]
    exact_mod_cast wide.2.le.trans (Nat.pow_le_pow_right two_pos range.1)

theorem Fraction.pos {p : Float} {v : ℚ} (h : Fraction p v) : (2 : ℚ) ^ (-64 : ℤ) ≤ v := by
  obtain ⟨⟨m, e, pos, -, -, least, rfl⟩, -⟩ := h
  calc (2 : ℚ) ^ (-64 : ℤ) ≤ 2 ^ e := zpow_le_zpow_right₀ one_le_two least
    _ ≤ m * 2 ^ e := le_mul_of_one_le_left (zpow_pos two_pos e).le (by exact_mod_cast pos)

/-- A fraction of a normal double is the nearest one, which is finite. -/
theorem Fraction.nearest_mul {p a : Float} {v : ℚ} (h : Fraction p v) {n : ℕ} {f : ℤ} {pos : 0 < n}
    (unpacked : a.toModel.unpack = .finite .positive n f pos) (normal : Normal n f) (least : -200 ≤ f) :
    NearestNormal (v * (n * 2 ^ f)) (p * a).toModel.unpack := by
  obtain ⟨⟨m, e, pos', factor, normal', least', rfl⟩, most⟩ := h
  have wide : 2 ^ 52 ≤ m * n := (normal'.wide.trans (Nat.le_mul_of_pos_right m pos))
  have product : ((m * n : ℕ) : ℚ) * 2 ^ (e + f) = m * 2 ^ e * (n * 2 ^ f) := by
    rw [zpow_add₀ two_ne_zero]
    push_cast
    ring
  obtain ⟨k, g, pos'', rounded, normal'', near⟩ :=
    roundWithAccuracy_nearest wide (show -1074 ≤ e + f by omega)
  have made : (p * a).toModel = .pack (.finite .positive k g pos'') := by
    show Float.Model.pack (UnpackedFloat.mul .binary64 p.toModel.unpack a.toModel.unpack) = _
    rw [factor, unpacked, ← rounded]
    rfl
  rw [product, rounded] at near
  -- It is not above the double itself, so its exponent is not larger either.
  have small : (k : ℚ) * 2 ^ g ≤ n * 2 ^ f := by
    have le : (m : ℚ) * 2 ^ e * (n * 2 ^ f) ≤ n * 2 ^ f :=
      mul_le_of_le_one_left (by positivity) most
    have nearer := near (.finite .positive n f pos) normal.toCanonical
    rw [value_positive, value_positive] at nearer
    exact le_of_nearest nearer le
  have exponent : g ≤ 971 := by
    by_contra! large
    have bound := exponent_le unpacked
    exact (normal.toCanonical.lt normal''.toCanonical (.inl (by omega))).not_ge small
  have kept := unpack_pack .positive normal'' pos''
  rw [if_pos exponent] at kept
  rw [made, kept]
  exact ⟨k, g, pos'', rfl, normal'', near⟩

theorem unpack_pack_zero (s : Sign) : (Float.Model.pack (.zero s)).unpack = .zero s := by
  cases s <;> rfl

theorem unpack_ofNat_zero : (Float.ofNat 0).toModel.unpack = .zero .positive := by rfl

/-- A positive count that is finite as a double is a normal one close to it. -/
theorem exists_unpack_ofNat {n : ℕ} (positive : 0 < n)
    (finite : Scalar.isFinite (Scalar.ofNat n : Float) = true) :
    ∃ k f pos, (Float.ofNat n).toModel.unpack = .finite .positive k f pos ∧ Normal k f ∧ -200 ≤ f ∧
      |(n : ℚ) - k * 2 ^ f| ≤ n / 2 ^ 52 := by
  have one : (1 : ℚ) ≤ n := by exact_mod_cast positive
  have tiny : (2 : ℚ) ^ (-200 : ℤ) ≤ n :=
    (zpow_le_one_of_nonpos₀ one_le_two (by decide)).trans one
  rcases unpack_ofNat n with ⟨rfl, -⟩ | infinite | ⟨k, f, pos, unpacked, normal, near⟩
  · cases positive
  · change (Float.ofNat n).toModel.unpack.isFinite = true at finite
    rw [infinite] at finite
    cases finite
  · have close := near.close tiny
    rw [unpacked, value_positive] at close
    refine ⟨k, f, pos, unpacked, normal, ?_, close⟩
    -- With a lower exponent it would be less than a half.
    by_contra! low
    have power : (2 : ℚ) ^ f ≤ 2 ^ (-200 : ℤ) := zpow_le_zpow_right₀ one_le_two low.le
    have small : (k : ℚ) * 2 ^ f < 1 / 2 := by
      calc (k : ℚ) * 2 ^ f ≤ 2 ^ 53 * 2 ^ (-200 : ℤ) :=
            mul_le_mul (by exact_mod_cast normal.narrow.le) power (zpow_pos two_pos f).le (by positivity)
        _ < 1 / 2 := by norm_num
    linarith [(abs_le.1 close).2]

/-- A fraction of a count is close to the exact one. -/
theorem Fraction.exists_floor {p : Float} {v : ℚ} (h : Fraction p v) {n : ℕ}
    (finite : Scalar.isFinite (Scalar.ofNat n : Float) = true) :
    ∃ x : ℚ, Scalar.floor (p * Scalar.ofNat n) = .ok ⌊x⌋ ∧ |v * n - x| ≤ v * n / 2 ^ 50 := by
  rcases n.eq_zero_or_pos with rfl | positive
  · obtain ⟨⟨m, e, pos, factor, -⟩, -⟩ := h
    have product : (p * Float.ofNat 0).toModel.unpack = .zero .positive := by
      show (Float.Model.pack (UnpackedFloat.mul .binary64 p.toModel.unpack _)).unpack = _
      rw [factor, unpack_ofNat_zero]
      exact unpack_pack_zero .positive
    have whole := floor_eq (a := p * Float.ofNat 0) (by rw [product]; rfl)
    rw [product] at whole
    exact ⟨0, whole, by simp⟩
  · obtain ⟨k, f, pos, unpacked, normal, least, close⟩ := exists_unpack_ofNat positive finite
    have one : (1 : ℚ) ≤ n := by exact_mod_cast positive
    have above : 0 < v := (zpow_pos two_pos _).trans_le h.pos
    obtain ⟨m, e, pos', product, -, near⟩ := h.nearest_mul unpacked normal least
    have whole := floor_eq (a := p * Float.ofNat n) (by rw [product]; rfl)
    rw [product, value_positive] at whole
    refine ⟨_, whole, ?_⟩
    obtain ⟨low, high⟩ := abs_le.1 close
    have half : (1 : ℚ) / 2 ≤ k * 2 ^ f := by linarith
    have tiny : (2 : ℚ) ^ (-200 : ℤ) ≤ v * (k * 2 ^ f) := by
      calc (2 : ℚ) ^ (-200 : ℤ) ≤ 2 ^ (-64 : ℤ) * (1 / 2) := by norm_num
        _ ≤ v * (k * 2 ^ f) := mul_le_mul h.pos half (by norm_num) above.le
    have rounded := near.close tiny
    rw [product, value_positive] at rounded
    -- The count is off by a part of it, and so is the product.
    have scaled : |v * n - v * (k * 2 ^ f)| ≤ v * (n / 2 ^ 52) := by
      rw [← mul_sub, abs_mul, abs_of_pos above]
      exact mul_le_mul_of_nonneg_left close above.le
    have most : v * (k * 2 ^ f) ≤ v * (2 * n) :=
      mul_le_mul_of_nonneg_left (by linarith) above.le
    calc |v * n - m * 2 ^ e| ≤ |v * n - v * (k * 2 ^ f)| + |v * (k * 2 ^ f) - m * 2 ^ e| :=
          abs_sub_le _ _ _
      _ ≤ v * (n / 2 ^ 52) + v * (2 * n) / 2 ^ 52 := by linarith
      _ ≤ v * n / 2 ^ 50 := by
        have nonneg : 0 ≤ v * n := by positivity
        linarith

/-- A count that is too large for a double has no fraction with an integer part. -/
theorem Fraction.floor_infinite {p : Float} {v : ℚ} (h : Fraction p v) {n : ℕ}
    (infinite : Scalar.isFinite (Scalar.ofNat n : Float) = false) :
    Scalar.floor (p * Scalar.ofNat n) = .error .infinite := by
  obtain ⟨⟨m, e, pos, factor, -⟩, -⟩ := h
  have count : (Float.ofNat n).toModel.unpack = .infinity .positive := by
    change (Float.ofNat n).toModel.unpack.isFinite = false at infinite
    rcases unpack_ofNat n with ⟨-, zero⟩ | beyond | ⟨k, f, pos', unpacked, -⟩
    · rw [zero] at infinite
      cases infinite
    · exact beyond
    · rw [unpacked] at infinite
      cases infinite
  have product : (p * Float.ofNat n).toModel.unpack = .infinity .positive := by
    show (Float.Model.pack (UnpackedFloat.mul .binary64 p.toModel.unpack _)).unpack = _
    rw [factor, count]
    exact unpack_pack_infinity .positive
  have parts := ofFloat_eq (p * Float.ofNat n)
  rw [product] at parts
  exact floor_of_infinite parts

end Dungeon.Double
