import Dungeon.Proofs.Ordered
import Mathlib

/-!
# Doubles and their values

A finite double is a mantissa of at most 53 bits and an exponent; the mantissa is short only with the
least exponent. That makes the place of a double the place of its value. Bits, exact numbers and parts
say the same of a double, and packing its parts loses nothing.
-/

namespace Dungeon.Double

open Decimal (Binary64)
open Float.Model (UnpackedFloat Format)
open Float.Model.UnpackedFloat (Sign packComponents unpackExponent unpackMantissa unpackSign)

/-- A mantissa and an exponent of a finite double. Only the least exponent goes with a short mantissa. -/
structure Canonical (m : ℕ) (e : ℤ) : Prop where
  narrow : m < 2 ^ 53
  least : -1074 ≤ e
  full : e = -1074 ∨ 2 ^ 52 ≤ m

/-- A mantissa of full width. -/
structure Normal (m : ℕ) (e : ℤ) : Prop extends Canonical m e where
  wide : 2 ^ 52 ≤ m

theorem Normal.log2_eq {m : ℕ} {e : ℤ} (h : Normal m e) : m.log2 = 52 := by
  have nonzero : m ≠ 0 := by have := h.wide; omega
  exact (Nat.log2_eq_iff nonzero).2 ⟨h.wide, h.narrow⟩

/-- The value of a double that is taken apart. -/
def unpackedValue : UnpackedFloat → ℚ
  | .finite s m e _ => s.apply m * 2 ^ e
  | _ => 0

/-- Taken apart, a double has a canonical mantissa and exponent if it has any. -/
def UnpackedCanonical : UnpackedFloat → Prop
  | .finite _ m e _ => Canonical m e
  | _ => True

theorem abs_apply (s : Sign) (a : ℕ) : |((s.apply a : ℤ) : ℚ)| = a := by
  cases s <;> simp [Sign.apply]

theorem canonical_neg {u : UnpackedFloat} (canonical : UnpackedCanonical u) : UnpackedCanonical u.neg := by
  cases u <;> exact canonical

theorem value_neg (u : UnpackedFloat) : unpackedValue u.neg = -unpackedValue u := by
  cases u with
  | notANumber => exact neg_zero.symm
  | infinity s => exact neg_zero.symm
  | zero s => exact neg_zero.symm
  | finite s m e pos =>
    have opposite : (-s).apply m = -s.apply m := by
      cases s with
      | negative => exact (neg_neg _).symm
      | positive => rfl
    show (((-s).apply m : ℤ) : ℚ) * 2 ^ e = -(((s.apply m : ℤ) : ℚ) * 2 ^ e)
    rw [opposite]
    push_cast
    ring

/-- Exponents come first in the order of canonical numbers. -/
theorem Canonical.lt {m n : ℕ} {e f : ℤ} (left : Canonical m e) (right : Canonical n f)
    (order : e < f ∨ e = f ∧ m < n) : (m : ℚ) * 2 ^ e < n * 2 ^ f := by
  have power : (0 : ℚ) < 2 ^ e := zpow_pos two_pos e
  rcases order with less | ⟨rfl, less⟩
  · have full : 2 ^ 52 ≤ n := right.full.resolve_left (by have := left.least; omega)
    calc (m : ℚ) * 2 ^ e < 2 ^ 53 * 2 ^ e :=
          mul_lt_mul_of_pos_right (by exact_mod_cast left.narrow) power
      _ = 2 ^ 52 * 2 ^ (e + 1) := by
          rw [zpow_add_one₀ two_ne_zero]
          ring
      _ ≤ 2 ^ 52 * 2 ^ f :=
          mul_le_mul_of_nonneg_left (zpow_le_zpow_right₀ one_le_two less) (by positivity)
      _ ≤ n * 2 ^ f :=
          mul_le_mul_of_nonneg_right (by exact_mod_cast full) (zpow_pos two_pos f).le
  · exact mul_lt_mul_of_pos_right (by exact_mod_cast less) power

/-- A finite double has its place between the two infinite ones. -/
theorem exists_place {u : UnpackedFloat} (finite : u.isFinite = true) :
    ∃ x, unpackedPlace? u = some x ∧ toLex (-2, toLex (0, 0)) < x ∧ x < toLex (2, toLex (0, 0)) := by
  cases u with
  | notANumber => cases finite
  | infinity => cases finite
  | zero s => exact ⟨_, rfl, by decide, by decide⟩
  | finite s m e pos =>
    refine ⟨_, rfl, ?_⟩
    cases s <;> simp [Sign.apply, Prod.Lex.toLex_lt_toLex]

/-- Numbers that are not zero are in the order of sign, exponent and mantissa. -/
theorem signed_lt {s t : Sign} {m n : ℕ} {e f : ℤ} (left : Canonical m e) (right : Canonical n f)
    (pos : 0 < m) (pos' : 0 < n)
    (less : toLex (s.apply (1 : ℤ), toLex (s.apply e, s.apply (m : ℤ))) <
      toLex (t.apply 1, toLex (t.apply f, t.apply n))) :
    ((s.apply m : ℤ) : ℚ) * 2 ^ e < (t.apply n : ℤ) * 2 ^ f := by
  cases s with
  | negative =>
    cases t with
    | negative =>
      have order : f < e ∨ f = e ∧ n < m := by
        simpa [Sign.apply, Prod.Lex.toLex_lt_toLex, eq_comm] using less
      simpa [Sign.apply] using Canonical.lt right left order
    | positive =>
      have above : (0 : ℚ) < m * 2 ^ e := mul_pos (Nat.cast_pos.2 pos) (zpow_pos two_pos e)
      have above' : (0 : ℚ) < n * 2 ^ f := mul_pos (Nat.cast_pos.2 pos') (zpow_pos two_pos f)
      simp only [Sign.apply, Int.cast_neg, Int.cast_natCast]
      linarith
  | positive =>
    cases t with
    | negative => simp [Sign.apply, Prod.Lex.toLex_lt_toLex] at less
    | positive =>
      have order : e < f ∨ e = f ∧ m < n := by
        simpa [Sign.apply, Prod.Lex.toLex_lt_toLex] using less
      exact Canonical.lt left right order

section

variable {u w : UnpackedFloat} {x y : ℤ ×ₗ ℤ ×ₗ ℤ}

/-- Places in front have smaller values. -/
theorem value_lt_of_place_lt (hu : UnpackedCanonical u) (hw : UnpackedCanonical w)
    (fu : u.isFinite = true) (fw : w.isFinite = true) (pu : unpackedPlace? u = some x)
    (pw : unpackedPlace? w = some y) (less : x < y) : unpackedValue u < unpackedValue w := by
  cases u with
  | notANumber => cases fu
  | infinity => cases fu
  | zero s =>
    obtain rfl := Option.some.inj pu
    cases w with
    | notANumber => cases fw
    | infinity => cases fw
    | zero t =>
      obtain rfl := Option.some.inj pw
      exact absurd less (lt_irrefl _)
    | finite t n f pos =>
      obtain rfl := Option.some.inj pw
      cases t with
      | negative => simp [Sign.apply, Prod.Lex.toLex_lt_toLex] at less
      | positive => exact mul_pos (Nat.cast_pos.2 pos) (zpow_pos two_pos f)
  | finite s m e pos =>
    obtain rfl := Option.some.inj pu
    cases w with
    | notANumber => cases fw
    | infinity => cases fw
    | zero t =>
      obtain rfl := Option.some.inj pw
      cases s with
      | negative =>
        have above : (0 : ℚ) < m * 2 ^ e := mul_pos (Nat.cast_pos.2 pos) (zpow_pos two_pos e)
        simpa [unpackedValue, Sign.apply] using above
      | positive => simp [Sign.apply, Prod.Lex.toLex_lt_toLex] at less
    | finite t n f pos' =>
      obtain rfl := Option.some.inj pw
      exact signed_lt hu hw pos pos' less

theorem value_eq_of_place_eq (fu : u.isFinite = true) (fw : w.isFinite = true)
    (pu : unpackedPlace? u = some x) (pw : unpackedPlace? w = some x) :
    unpackedValue u = unpackedValue w := by
  have same := pu.trans pw.symm
  cases u with
  | notANumber => cases fu
  | infinity => cases fu
  | zero s =>
    cases w with
    | notANumber => cases fw
    | infinity => cases fw
    | zero t => rfl
    | finite t n f pos => cases t <;> simp [unpackedPlace?, Sign.apply] at same
  | finite s m e pos =>
    cases w with
    | notANumber => cases fw
    | infinity => cases fw
    | zero t => cases s <;> simp [unpackedPlace?, Sign.apply] at same
    | finite t n f pos' =>
      cases s <;> cases t <;> simp [unpackedPlace?, Sign.apply] at same <;>
        obtain ⟨rfl, rfl⟩ := same <;> rfl

/-- Doubles that are finite are in the order of their values. -/
theorem place_le_iff (hu : UnpackedCanonical u) (hw : UnpackedCanonical w)
    (fu : u.isFinite = true) (fw : w.isFinite = true) (pu : unpackedPlace? u = some x)
    (pw : unpackedPlace? w = some y) : x ≤ y ↔ unpackedValue u ≤ unpackedValue w := by
  rcases lt_trichotomy x y with less | rfl | more
  · exact iff_of_true less.le (value_lt_of_place_lt hu hw fu fw pu pw less).le
  · exact iff_of_true le_rfl (value_eq_of_place_eq fu fw pu pw).le
  · exact iff_of_false more.not_ge (value_lt_of_place_lt hw hu fw fu pw pu more).not_ge

end

section

variable (b : BitVec Format.binary64.numBits)

theorem toNat_unpackMantissa :
    (unpackMantissa b).toNat = b.toNat % Binary64.hiddenBit := by
  simp [unpackMantissa, Binary64.hiddenBit]

theorem toNat_unpackExponent :
    (unpackExponent b).toNat = b.toNat / Binary64.hiddenBit % 2048 := by
  simp [unpackExponent, Binary64.hiddenBit, Nat.shiftRight_eq_div_pow]

theorem ofBitVec_unpackSign :
    (Sign.ofBitVec (unpackSign b) == .negative) =
      decide (Binary64.signBit ≤ b.toNat) := by
  have small : b.toNat < 2 ^ 64 := b.isLt
  have bit : unpackSign b = 0#1 ↔ ¬ Binary64.signBit ≤ b.toNat := by
    rw [← BitVec.toNat_inj]
    simp [unpackSign, Nat.shiftRight_eq_div_pow, Binary64.signBit]
    omega
  by_cases high : Binary64.signBit ≤ b.toNat
  · rw [Sign.ofBitVec, if_neg (by rw [bit]; simpa using high), decide_eq_true high]
    rfl
  · rw [Sign.ofBitVec, if_pos (bit.2 high), decide_eq_false high]
    rfl

end

/-- A double that is taken apart, as exact numbers are written. -/
def exactly : UnpackedFloat → Binary64
  | .notANumber => .undefined
  | .infinity s => .infinite (s == .negative)
  | .zero s => .finite (s == .negative) 0 (-1074)
  | .finite s m e _ => .finite (s == .negative) m e

theorem ofFloat_eq (x : Float) : Binary64.ofFloat x = exactly x.toModel.unpack := by
  let b : BitVec Format.binary64.numBits := x.toModel.toBits.toBitVec
  have word : x.toBits.toNat = b.toNat := rfl
  have taken : x.toModel.unpack = UnpackedFloat.unpack .binary64 b := rfl
  have all : unpackExponent b = -1#11 ↔
      b.toNat / Binary64.hiddenBit % 2048 = 2047 := by
    rw [← toNat_unpackExponent, ← BitVec.toNat_inj]
    rfl
  have none : unpackExponent b = 0#11 ↔
      b.toNat / Binary64.hiddenBit % 2048 = 0 := by
    rw [← toNat_unpackExponent, ← BitVec.toNat_inj]
    rfl
  have empty : unpackMantissa b = 0#52 ↔ b.toNat % Binary64.hiddenBit = 0 := by
    rw [← toNat_unpackMantissa, ← BitVec.toNat_inj]
    rfl
  have sign := ofBitVec_unpackSign b
  rw [taken, UnpackedFloat.unpack, Binary64.ofFloat, word]
  dsimp only
  split
  next h =>
    rw [if_pos (all.2 h)]
    split
    next h => rw [if_pos (empty.2 h), exactly, sign]
    next h => rw [if_neg (mt empty.1 h), exactly]
  next h =>
    rw [if_neg (mt all.1 h)]
    split
    next h =>
      rw [if_pos (none.2 h)]
      have least : ((unpackExponent b).toNat : ℤ) = 0 := by
        rw [none.2 h]
        rfl
      split
      next h => rw [exactly, sign, empty.1 h]
      next h =>
        rw [exactly, sign, toNat_unpackMantissa, least]
        rfl
    next h =>
      have full : (1#1 ++ unpackMantissa b).toNat =
          b.toNat % Binary64.hiddenBit + Binary64.hiddenBit := by
        have narrow : b.toNat % Binary64.hiddenBit < 2 ^ 52 := Nat.mod_lt _ (by decide)
        rw [BitVec.toNat_append, toNat_unpackMantissa, ← Nat.shiftLeft_add_eq_or_of_lt narrow, add_comm]
        rfl
      rw [if_neg (mt none.1 h), exactly, sign, full, toNat_unpackExponent]
      rfl

/-- Every double that is taken apart is canonical. -/
theorem canonical_unpack (x : Float) : UnpackedCanonical x.toModel.unpack := by
  have taken := ofFloat_eq x
  cases unpacked : x.toModel.unpack with
  | notANumber => trivial
  | infinity s => trivial
  | zero s => trivial
  | finite s m e pos =>
    rw [unpacked, exactly, Binary64.ofFloat] at taken
    split at taken
    next => split at taken <;> cases taken
    next =>
      split at taken
      next =>
        obtain ⟨-, rfl, rfl⟩ := Binary64.finite.inj taken
        exact ⟨(Nat.mod_lt _ (by decide)).trans (by decide), le_refl _, .inl rfl⟩
      next some =>
        obtain ⟨-, rfl, rfl⟩ := Binary64.finite.inj taken
        have narrow : x.toBits.toNat % Binary64.hiddenBit < Binary64.hiddenBit := Nat.mod_lt _ (by decide)
        refine ⟨Nat.add_lt_add_right narrow _, by omega, .inr (Nat.le_add_left _ _)⟩

theorem compare_strictMono {β γ : Type} [LinearOrder β] [LinearOrder γ] {f : β → γ}
    (mono : StrictMono f) (a b : β) : compare (f a) (f b) = compare a b := by
  rw [← cmp_eq_compare, ← cmp_eq_compare, mono.cmp_map_eq]

/-- A finite double compares with integers as its value does. -/
theorem compareScaled_eq (k e n : ℤ) : Binary64.compareScaled k e n = compare ((k : ℚ) * 2 ^ e) n := by
  rw [Binary64.compareScaled]
  split
  next whole =>
    obtain ⟨d, rfl⟩ := Int.eq_ofNat_of_zero_le whole
    have power : ((Nat.pow 2 d : ℕ) : ℚ) = 2 ^ d := Nat.cast_pow 2 d
    rw [← compare_strictMono (Int.cast_strictMono (R := ℚ)), Int.toNat_natCast, zpow_natCast,
      Int.cast_mul, Int.cast_natCast, power]
  next small =>
    obtain ⟨d, rfl⟩ := Int.exists_eq_neg_ofNat (not_le.1 small).le
    have unit : (0 : ℚ) < 2 ^ d := by positivity
    have power : ((Nat.pow 2 d : ℕ) : ℚ) = 2 ^ d := Nat.cast_pow 2 d
    have scale : StrictMono fun x : ℚ => x * 2 ^ d := fun x y less => mul_lt_mul_of_pos_right less unit
    rw [← compare_strictMono scale, ← compare_strictMono (Int.cast_strictMono (R := ℚ)), neg_neg,
      Int.toNat_natCast, zpow_neg, zpow_natCast, inv_mul_cancel_right₀ unit.ne', Int.cast_mul,
      Int.cast_natCast, power]

/-- A finite double compares with integers as its value does. -/
theorem compareInt_exactly {u : UnpackedFloat} (finite : u.isFinite = true) (n : ℤ) :
    (exactly u).compareInt n = some (compare (unpackedValue u) n) := by
  have signed (s : Sign) (m : ℕ) : Binary64.signed (s == .negative) m = s.apply m := by
    cases s <;> rfl
  cases u with
  | notANumber => cases finite
  | infinity => cases finite
  | zero s =>
    have nothing : s.apply (0 : ℕ) = 0 := by cases s <;> rfl
    rw [exactly, Binary64.compareInt, signed, compareScaled_eq, nothing, Int.cast_zero, zero_mul]
    rfl
  | finite s m e pos =>
    rw [exactly, Binary64.compareInt, signed, compareScaled_eq]
    rfl

section

variable (s : Sign) {m : ℕ} {e : ℤ}

/-- The parts of a normal number, found again among the bits that they were put into. -/
theorem unpack_packComponents (wide : 2 ^ 52 ≤ m) (narrow : m < 2 ^ 53) {k : ℕ} (some : 0 < k)
    (notAll : k < 2047) (pos : 0 < m) :
    UnpackedFloat.unpack .binary64 (packComponents .binary64 s (BitVec.ofNat 11 k) (BitVec.ofNat 52 m)) =
      .finite s m (k - 1075) pos := by
  have exponent : (BitVec.ofNat 11 k).toNat = k := by
    rw [BitVec.toNat_ofNat, Nat.mod_eq_of_lt (by omega)]
  have nonzero : BitVec.ofNat 11 k ≠ 0#11 := by
    rw [ne_eq, ← BitVec.toNat_inj, exponent, BitVec.toNat_zero]
    omega
  have finite : BitVec.ofNat 11 k ≠ -1#11 := by
    have ones : (-1#11).toNat = 2047 := rfl
    rw [ne_eq, ← BitVec.toNat_inj, exponent, ones]
    omega
  have mantissa : (1#1 ++ BitVec.ofNat 52 m).toNat = m := by
    have bits : (BitVec.ofNat 52 m).toNat = m % 2 ^ 52 := BitVec.toNat_ofNat m 52
    rw [BitVec.toNat_append, bits, ← Nat.shiftLeft_add_eq_or_of_lt (Nat.mod_lt m (by decide))]
    show 1 <<< 52 + _ = m
    omega
  have back : ((BitVec.ofNat 11 k).toNat : ℤ) - (Format.binary64.exponentBias + (52 : ℕ)) = k - 1075 := by
    rw [exponent]
    rfl
  rw [UnpackedFloat.unpack]
  simp only [UnpackedFloat.unpackExponent_packComponents, UnpackedFloat.unpackMantissa_packComponents,
    UnpackedFloat.unpackSign_packComponents, Sign.ofBitVec_toBitVec, if_neg nonzero, if_neg finite]
  congr 1

theorem unpack_pack_infinity : (Float.Model.pack (.infinity s)).unpack = .infinity s := by
  cases s <;> rfl

/-- A normal number is as it was after packing, unless its exponent is too large. -/
theorem unpack_pack (normal : Normal m e) (pos : 0 < m) :
    (Float.Model.pack (.finite s m e pos)).unpack =
      if e ≤ 971 then .finite s m e pos else .infinity s := by
  have log : m.log2 + 1 = Format.binary64.mantissaBits := by
    rw [normal.log2_eq]
    rfl
  obtain ⟨⟨narrow, least, -⟩, wide⟩ := normal
  have biased : (e + Format.binary64.exponentBias + (52 : ℕ)).toNat = (e + 1075).toNat := by
    have bias : ((Format.binary64.exponentBias : ℕ) : ℤ) = 1023 := rfl
    rw [bias]
    omega
  show UnpackedFloat.unpack _ (UnpackedFloat.pack _ _) = _
  split
  next small =>
    have fits : ¬ 2 ^ 11 ≤ (e + 1075).toNat + 1 := by omega
    rw [UnpackedFloat.pack, biased, if_neg fits, if_pos log,
      unpack_packComponents s wide narrow (by omega) (by omega) pos]
    congr 1
    omega
  next large =>
    have outOfRange : 2 ^ 11 ≤ (e + 1075).toNat + 1 := by omega
    rw [UnpackedFloat.pack, biased, if_pos outOfRange]
    exact unpack_pack_infinity s

end

end Dungeon.Double
