import Dungeon.Proofs.Run.Housing
import Mathlib.Algebra.BigOperators.Ring.List
import Mathlib.Algebra.Order.BigOperators.Group.List

/-!
# What a weighted draw falls on

The weights, laid end to end, cut the interval from zero to their sum into slots, and a weighted draw
gives the slot that its fraction of the sum is in: with exact numbers there is exactly one such slot,
it has a positive weight, and scaling all weights moves it with them.
-/

namespace Dungeon

/-- An exact arithmetic without numbers or sums that are too large. -/
class Unbounded (α : Type) [Scalar α] [Exact α] : Prop where
  compareInt_eq (a : α) (n : Int) : Scalar.compareInt a n = some (compare (Exact.value a) n)
  exists_ofInt (n : Int) : ∃ a : α, Scalar.ofInt? n = some a ∧ Exact.value a = n
  exists_sum (xs : List α) :
    ∃ t, Scalar.sum xs = .ok t ∧ Exact.value t = (xs.map Exact.value).sum
  isFinite (a : α) : Scalar.isFinite a = true

instance : Unbounded ℚ where
  compareInt_eq _ _ := rfl
  exists_ofInt n := ⟨n, rfl, rfl⟩
  exists_sum xs := ⟨xs.sum, rfl, congrArg List.sum (List.map_id xs).symm⟩
  isFinite _ := rfl

/-- Weights laid end to end have the number in the part of this index. -/
structure Slot (ws : List ℚ) (x : ℚ) (i : Nat) : Prop where
  inside : i < ws.length
  before : (ws.take i).sum ≤ x
  behind : x < (ws.take (i + 1)).sum

namespace Slot

variable {ws : List ℚ} {x : ℚ} {i j : Nat}

theorem sum_take_mono (nonneg : ∀ w ∈ ws, 0 ≤ w) (le : i ≤ j) :
    (ws.take i).sum ≤ (ws.take j).sum :=
  (List.take_prefix_take_left le).sublist.sum_le_sum fun w member =>
    nonneg w (List.mem_of_mem_take member)

/-- The sums reach beyond the number from the slot on, and not before. -/
theorem lt_sum_take_iff (nonneg : ∀ w ∈ ws, 0 ≤ w) (slot : Slot ws x i) :
    x < (ws.take (j + 1)).sum ↔ i ≤ j := by
  constructor
  · intro reached
    by_contra early
    have le := sum_take_mono nonneg (show j + 1 ≤ i by omega)
    exact (reached.trans_le (le.trans slot.before)).false
  · intro le
    exact slot.behind.trans_le (sum_take_mono nonneg (Nat.succ_le_succ le))

theorem unique (nonneg : ∀ w ∈ ws, 0 ≤ w) (slot : Slot ws x i) (slot' : Slot ws x j) : i = j :=
  Nat.le_antisymm ((slot.lt_sum_take_iff nonneg).1 slot'.behind)
    ((slot'.lt_sum_take_iff nonneg).1 slot.behind)

/-- The first sum beyond the number ends its slot. -/
theorem exists_slot (least : 0 ≤ x) (below : x < ws.sum) : ∃ i, Slot ws x i := by
  classical
  have reached : ∃ n, x < (ws.take n).sum := ⟨ws.length, by rwa [List.take_length]⟩
  have beyond := Nat.find_spec reached
  obtain ⟨i, first⟩ : ∃ i, Nat.find reached = i + 1 := by
    refine Nat.exists_eq_succ_of_ne_zero fun zero => ?_
    rw [zero, List.take_zero, List.sum_nil] at beyond
    exact (beyond.trans_le least).false
  rw [first] at beyond
  have before : (ws.take i).sum ≤ x := not_lt.1 (Nat.find_min reached (by omega))
  refine ⟨i, ?_, before, beyond⟩
  by_contra outside
  rw [List.take_of_length_le (by omega)] at before beyond
  exact (beyond.trans_le before).false

/-- A slot has a positive weight. -/
theorem pos (slot : Slot ws x i) : 0 < ws.get ⟨i, slot.inside⟩ := by
  have behind := slot.behind
  rw [List.sum_take_succ _ _ slot.inside] at behind
  rw [List.get_eq_getElem]
  linarith [slot.before]

theorem sum_map_div (ws : List ℚ) (t : ℚ) : (ws.map (· / t)).sum = ws.sum / t := by
  simp only [div_eq_mul_inv, List.sum_map_mul_right, List.map_id']

/-- Slots are scaled with their weights. -/
theorem map_div (slot : Slot ws x i) {t : ℚ} (positive : 0 < t) :
    Slot (ws.map (· / t)) (x / t) i where
  inside := by simpa using slot.inside
  before := by
    rw [← List.map_take, sum_map_div]
    exact div_le_div_of_nonneg_right slot.before positive.le
  behind := by
    rw [← List.map_take, sum_map_div]
    exact div_lt_div_of_pos_right slot.behind positive

end Slot

/-- Halving finds where a test begins to hold. -/
theorem bisect_eq {after : Nat → Bool} {i high : Nat} (turn : ∀ j < high, after j = true ↔ i ≤ j)
    {halvings low : Nat} (enough : high ≤ low + halvings) (least : low ≤ i) (most : i ≤ high) :
    bisect after halvings low high = i := by
  induction halvings generalizing low high with
  | zero =>
    show low = i
    omega
  | succ halvings ih =>
    unfold bisect
    split
    next open' =>
      have tested := turn (low + (high - low) / 2) (by omega)
      dsimp only
      split
      next holds =>
        exact ih (fun j lt => turn j (by omega)) (by omega) least (tested.1 holds)
      next fails =>
        have further : ¬ i ≤ low + (high - low) / 2 := mt tested.2 fails
        exact ih turn (by omega) (by omega) most
    next closed => omega

open Exact

variable {σ α β : Type} [Scalar α] [Exact α]

theorem getElem?_cumulated (sum : α) (ws : List α) (i : Nat) :
    ((cumulated sum ws)[i]?).map value =
      if i < ws.length then some (value sum + ((ws.map value).take (i + 1)).sum) else none := by
  induction ws generalizing sum i with
  | nil => rfl
  | cons w rest ih =>
    cases i with
    | zero => simp [cumulated]
    | succ i =>
      rw [cumulated, List.getElem?_cons_succ, ih]
      simp [add_assoc]

omit [Exact α] in
theorem length_cumulated (sum : α) (ws : List α) : (cumulated sum ws).length = ws.length := by
  induction ws generalizing sum with
  | nil => rfl
  | cons w rest ih => rw [cumulated, List.length_cons, ih, List.length_cons]

/-- The entry at an index is the sum of the weights up to there, the last one too. -/
theorem getElem?_cumulative {ws : List α} {total : α} (some_weight : ws ≠ [])
    (exact : value total = (ws.map value).sum) (i : Nat) :
    ((cumulative ws total)[i]?).map value =
      if i < ws.length then some ((ws.map value).take (i + 1)).sum else none := by
  have count : 0 < ws.length := List.length_pos_of_ne_nil some_weight
  have size : (cumulated (0.0 : α) ws).dropLast.length = ws.length - 1 := by
    rw [List.length_dropLast, length_cumulated]
  unfold cumulative
  rcases lt_trichotomy i (ws.length - 1) with early | last | late
  · rw [List.getElem?_append_left (by omega), List.getElem?_dropLast, length_cumulated, if_pos early,
      getElem?_cumulated]
    norm_num
  · have all : (ws.map value).take (i + 1) = ws.map value :=
      List.take_of_length_le (by rw [List.length_map]; omega)
    rw [List.getElem?_append_right (by omega), size, last, Nat.sub_self, if_pos (by omega), ← last, all]
    exact congrArg some exact
  · rw [List.getElem?_append_right (by omega), if_neg (by omega),
      List.getElem?_eq_none (by simp only [List.length_singleton]; omega)]
    rfl

theorem precedes_iff (a b : α) : precedes a b = true ↔ value a < value b := by
  have same : Scalar.eq b b = true := (eq_iff b b).2 rfl
  rw [precedes, same]
  simp

theorem rightPosition_cumulative {ws : List α} {total key : α} {i : Nat}
    (nonneg : ∀ w ∈ ws, 0 ≤ value w) (exact : value total = (ws.map value).sum)
    (slot : Slot (ws.map value) (value key) i) :
    rightPosition (cumulative ws total).toArray key = i := by
  have inside : i < ws.length := by simpa using slot.inside
  have some_weight : ws ≠ [] := List.ne_nil_of_length_pos (by omega)
  have size : (cumulative ws total).length = ws.length := by
    rw [cumulative, List.length_append, List.length_dropLast, length_cumulated, List.length_singleton]
    omega
  unfold rightPosition
  rw [List.size_toArray, size]
  refine bisect_eq (fun j lt => ?_) (by omega) (Nat.zero_le i) inside.le
  have entry := getElem?_cumulative some_weight exact j
  rw [if_pos lt] at entry
  obtain ⟨x, there, sum⟩ := Option.map_eq_some_iff.1 entry
  rw [List.getElem?_toArray, there, Option.map_some, Option.getD_some, precedes_iff, sum]
  exact slot.lt_sum_take_iff (List.forall_mem_map.2 nonneg)

section

variable [Source σ α] [Unbounded α]

/-- A weighted draw goes all the way to the search, which gives the slot without being cut off. -/
theorem Draw.weightedIndex_eq {ws : List α} {s : σ} {i : Nat} (nonneg : ∀ w ∈ ws, 0 ≤ value w)
    (positive : 0 < (ws.map value).sum)
    (slot : Slot (ws.map value) ((ws.map value).sum * value (Source.unit s).1) i) :
    weightedIndex ws s = .ok i (Source.unit s).2 ∧
    ∃ total key, Scalar.sum ws = .ok total ∧ between 0.0 total s = .ok key (Source.unit s).2 ∧
      rightPosition (cumulative ws total).toArray key = i := by
  obtain ⟨total, summed, exact⟩ := Unbounded.exists_sum ws
  have inside : i < ws.length := by simpa using slot.inside
  have zero : value (0.0 : α) = 0 := by norm_num
  have above : value (0.0 : α) < value total := by rwa [zero, exact]
  have drawn := between_eq above.le s
  have key : value (0.0 + (total - 0.0) * (Source.unit s).1) =
      (ws.map value).sum * value (Source.unit s).1 := by
    simp only [value_add, value_mul, value_sub, zero, exact]
    ring
  have found := rightPosition_cumulative nonneg exact (key ▸ slot)
  refine ⟨?_, total, _, summed, drawn, found⟩
  have kept : ws.any (Scalar.lt · 0.0) = false := by
    refine List.any_eq_false.2 fun w member less => ?_
    exact ((lt_iff w 0.0).1 less).not_ge (zero ▸ nonneg w member)
  have large : Scalar.le total 0.0 = false :=
    Bool.eq_false_iff.2 fun le => above.not_ge ((le_iff total 0.0).1 le)
  have clamped : indexAt ws total (0.0 + (total - 0.0) * (Source.unit s).1) = i := by
    rw [indexAt, found]
    exact Nat.min_eq_left (by omega)
  unfold weightedIndex
  rw [if_neg (by simpa using List.ne_nil_of_length_pos (by omega)), if_neg (by simp [kept])]
  refine bind_eq_ok.2 ⟨total, s, by rw [summed]; rfl, ?_⟩
  rw [if_neg (by simp [large])]
  exact bind_eq_ok.2 ⟨_, _, drawn, by rw [clamped]; rfl⟩

end

namespace Number

/-- The rational number that is written. -/
def value : Number α → ℚ
  | whole n => n
  | real x => Exact.value x

variable [Unbounded α]

theorem lt_whole_iff (w : Number α) (n : Int) : w.lt (whole n) = true ↔ w.value < n := by
  cases w with
  | whole m => simp [lt, value]
  | real x => simp [lt, value, Unbounded.compareInt_eq, compare_lt_iff_lt]

theorem exists_toScalar (w : Number α) : ∃ x, w.toScalar = .ok x ∧ Exact.value x = w.value := by
  cases w with
  | whole n =>
    obtain ⟨x, given, same⟩ := Unbounded.exists_ofInt (α := α) n
    exact ⟨x, by rw [toScalar, toScalar?, given], same⟩
  | real x => exact ⟨x, rfl, rfl⟩

end Number

omit [Scalar α] [Exact α] in
theorem ne_nil_of_sum_pos {f : β → ℚ} {ws : List β} (positive : 0 < (ws.map f).sum) : ws ≠ [] := by
  rintro rfl
  exact positive.false

variable [Unbounded α]

theorem exists_reals (ws : List (Number α)) : ∃ xs, (ws.map Value.num).mapM Value.toReal = .ok xs ∧
    xs.map Exact.value = ws.map Number.value := by
  induction ws with
  | nil => exact ⟨[], rfl, rfl⟩
  | cons w rest ih =>
    obtain ⟨x, given, same⟩ := w.exists_toScalar
    obtain ⟨xs, given', same'⟩ := ih
    refine ⟨x :: xs, ?_, by rw [List.map_cons, List.map_cons, same, same']⟩
    rw [List.map_cons, List.mapM_cons]
    exact except_bind_eq_ok.2 ⟨x, given, except_bind_eq_ok.2 ⟨xs, given', rfl⟩⟩

omit [Scalar α] [Exact α] [Unbounded α] in
theorem anyM_ok_false {f : Value α → Except Fault Bool} {vs : List (Value α)}
    (passed : ∀ v ∈ vs, f v = .ok false) : vs.anyM f = .ok false := by
  induction vs with
  | nil => rfl
  | cons v rest ih =>
    obtain ⟨first, others⟩ := List.forall_mem_cons.1 passed
    exact except_bind_eq_ok.2 ⟨false, first, ih others⟩

theorem compare_zero {w : Number α} (nonneg : 0 ≤ w.value) :
    Value.compare .lt (.num w) (.int 0) = .ok false := by
  have kept : w.lt (.whole 0) = false := by
    refine Bool.eq_false_iff.2 fun less => ?_
    have negative := (w.lt_whole_iff 0).1 less
    rw [Int.cast_zero] at negative
    exact negative.not_ge nonneg
  have related : Value.related .lt (.num w) (.int 0) = .ok (w.lt (.whole 0)) := by
    cases w <;> rfl
  rw [Value.compare, related, kept]
  rfl

theorem improper_num {w : Number α} (nonneg : 0 ≤ w.value) : improper (.num w) = .ok false := by
  obtain ⟨x, given, _⟩ := w.exists_toScalar
  refine except_bind_eq_ok.2 ⟨false, compare_zero nonneg, ?_⟩
  rw [if_neg (by simp)]
  exact except_bind_eq_ok.2 ⟨x, given, by rw [Unbounded.isFinite]; rfl⟩

/-- Weights that are not negative, and of which one is positive, are scaled by their sum. -/
theorem exists_normalised {ws : List (Number α)} (nonneg : ∀ w ∈ ws, 0 ≤ w.value)
    (positive : 0 < (ws.map Number.value).sum) :
    ∃ scaled, normalised (ws.map .num) = .ok scaled ∧
      scaled.map Exact.value = (ws.map Number.value).map (· / (ws.map Number.value).sum) := by
  obtain ⟨xs, reals, same⟩ := exists_reals ws
  obtain ⟨total, summed, exact⟩ := Unbounded.exists_sum xs
  rw [same] at exact
  have fit : (ws.map Value.num).anyM improper = .ok false :=
    anyM_ok_false (List.forall_mem_map.2 fun w member => improper_num (nonneg w member))
  have large : Scalar.le total 0.0 = false := by
    refine Bool.eq_false_iff.2 fun le => ?_
    have least := (le_iff total 0.0).1 le
    rw [exact] at least
    norm_num at least
    exact positive.not_ge least
  refine ⟨xs.map (· / total), ?_, ?_⟩
  · unfold normalised
    rw [if_neg (by simpa using ne_nil_of_sum_pos positive)]
    refine except_bind_eq_ok.2 ⟨false, fit, ?_⟩
    rw [if_neg (by simp)]
    refine except_bind_eq_ok.2 ⟨xs, reals, except_bind_eq_ok.2 ⟨total, by rw [summed]; rfl, ?_⟩⟩
    rw [if_neg (by simp [large])]
    rfl
  · rw [← same, List.map_map, List.map_map]
    refine List.map_congr_left fun x _ => ?_
    rw [Function.comp_apply, value_div, exact, same]
    rfl

variable [Source σ α]

theorem Draw.weightedValue_eq {ws : List (Number α)} {xs : List α} (some_weight : ws ≠ [])
    (nonneg : ∀ w ∈ ws, 0 ≤ w.value) (reals : (ws.map Value.num).mapM Value.toReal = .ok xs) (s : σ) :
    weightedValue (ws.map .num) s = weightedIndex xs s := by
  have kept : (ws.map Value.num).anyM (fun w => Value.compare .lt w (.int 0)) = .ok false :=
    anyM_ok_false (List.forall_mem_map.2 fun w member => compare_zero (nonneg w member))
  unfold weightedValue
  rw [if_neg (by simpa using some_weight), kept, reals]
  rfl

/-- What is drawn from scaled weights is the slot among the weights themselves. -/
theorem Draw.weightedIndex_scaled {ws : List ℚ} {scaled : List α} {s : σ} {i : Nat}
    (nonneg : ∀ w ∈ ws, 0 ≤ w) (positive : 0 < ws.sum)
    (parts : scaled.map Exact.value = ws.map (· / ws.sum))
    (slot : Slot ws (ws.sum * Exact.value (Source.unit s).1) i) :
    weightedIndex scaled s = .ok i (Source.unit s).2 := by
  have one : (scaled.map Exact.value).sum = 1 := by
    rw [parts, Slot.sum_map_div, div_self positive.ne']
  have nonneg' : ∀ w ∈ scaled.map Exact.value, 0 ≤ w := by
    rw [parts]
    exact List.forall_mem_map.2 fun w member => div_nonneg (nonneg w member) positive.le
  have moved := slot.map_div positive
  rw [mul_div_cancel_left₀ _ positive.ne', ← parts] at moved
  refine (weightedIndex_eq (List.forall_mem_map.1 nonneg') (one ▸ one_pos) ?_).1
  rwa [one, one_mul]

/-- The index that is drawn for a fraction of the sum of all weights is the one whose part of the sum it
falls on. Its weight is positive, the search finds it without being cut off, and it is drawn from the
scaled weights as well. -/
theorem Draw.weightedValue_slot {ws : List (Number α)} {s : σ} (nonneg : ∀ w ∈ ws, 0 ≤ w.value)
    (positive : 0 < (ws.map Number.value).sum) (least : 0 ≤ Exact.value (Source.unit s).1)
    (below : Exact.value (Source.unit s).1 < 1) :
    ∃ xs i, (ws.map Value.num).mapM Value.toReal = .ok xs ∧
      weightedValue (ws.map .num) s = .ok i (Source.unit s).2 ∧
      weightedIndex xs s = .ok i (Source.unit s).2 ∧
      (∀ j, Slot (ws.map Number.value)
        ((ws.map Number.value).sum * Exact.value (Source.unit s).1) j ↔ j = i) ∧
      (∃ w, ws[i]? = some w ∧ 0 < w.value) ∧
      (∃ total key, Scalar.sum xs = .ok total ∧ between 0.0 total s = .ok key (Source.unit s).2 ∧
        rightPosition (cumulative xs total).toArray key = i) ∧
      ∃ scaled, normalised (ws.map .num) = .ok scaled ∧
        weightedIndex scaled s = .ok i (Source.unit s).2 := by
  have nonneg' : ∀ q ∈ ws.map Number.value, 0 ≤ q := List.forall_mem_map.2 nonneg
  obtain ⟨xs, reals, same⟩ := exists_reals ws
  obtain ⟨i, slot⟩ : ∃ i, Slot (ws.map Number.value)
      ((ws.map Number.value).sum * Exact.value (Source.unit s).1) i :=
    Slot.exists_slot (mul_nonneg positive.le least) (mul_lt_of_lt_one_right positive below)
  have inside : i < ws.length := by simpa using slot.inside
  have nonneg_reals : ∀ x ∈ xs, 0 ≤ Exact.value x := List.forall_mem_map.1 (same.symm ▸ nonneg')
  obtain ⟨drawn, found⟩ :=
    weightedIndex_eq nonneg_reals (same.symm ▸ positive) (same.symm ▸ slot)
  obtain ⟨scaled, normal, parts⟩ := exists_normalised nonneg positive
  refine ⟨xs, i, reals, ?_, drawn, fun j => ⟨fun other => other.unique nonneg' slot, ?_⟩, ?_, found,
    scaled, normal, weightedIndex_scaled nonneg' positive parts slot⟩
  · rw [weightedValue_eq (ne_nil_of_sum_pos positive) nonneg reals, drawn]
  · rintro rfl
    exact slot
  · exact ⟨ws[i], List.getElem?_eq_getElem inside, by simpa using slot.pos⟩

/-- Weights of which every other one is zero. -/
def Wheel.weights : List (Number ℚ) :=
  [.whole 0, .real 2, .whole 0, .whole 1, .real 0, .real 1, .whole 0]

/-- The fraction falls on the boundary between two slots, where a weight of zero is. -/
theorem Draw.weightedValue_slot_boundary :
    (∀ w ∈ Wheel.weights, 0 ≤ w.value) ∧ 0 < (Wheel.weights.map Number.value).sum ∧
    (0 ≤ Exact.value (Source.unit (⟨2⟩ : Wheel)).1 ∧ Exact.value (Source.unit (⟨2⟩ : Wheel)).1 < 1) ∧
    weightedValue (Wheel.weights.map .num) (⟨2⟩ : Wheel) = .ok 3 ⟨3⟩ ∧
    ∃ scaled, normalised (Wheel.weights.map .num) = .ok scaled ∧
      weightedIndex scaled (⟨2⟩ : Wheel) = .ok 3 ⟨3⟩ := by
  have nonneg : ∀ w ∈ Wheel.weights, 0 ≤ w.value := by decide +kernel
  have positive : 0 < (Wheel.weights.map Number.value).sum := by decide +kernel
  have fraction := Wheel.fractions ⟨2⟩
  have boundary : Slot (Wheel.weights.map Number.value)
      ((Wheel.weights.map Number.value).sum * Exact.value (Source.unit (⟨2⟩ : Wheel)).1) 3 :=
    ⟨by decide, by decide +kernel, by decide +kernel⟩
  obtain ⟨_, i, _, drawn, _, slots, _, _, scaled, normal, drawn'⟩ :=
    weightedValue_slot nonneg positive fraction.1 fraction.2
  obtain rfl := (slots 3).1 boundary
  exact ⟨nonneg, positive, fraction, drawn, scaled, normal, drawn'⟩

end Dungeon
