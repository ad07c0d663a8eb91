import Dungeon.Proofs.Exact
import Dungeon.Proofs.Failing
import Dungeon.Statistics.Histogram
import Mathlib.Algebra.BigOperators.Group.Finset.Basic
import Mathlib.Algebra.Order.Floor.Semiring
import Mathlib.Data.List.Range

/-!
# Histograms are partitions

A value is counted in the bucket that a division finds, while the bounds of a bucket are multiples of
the width. With exact numbers the two agree: the buckets lie end to end between the least and the
greatest value, and each counts the values that lie in it.
-/

namespace Dungeon

open Exact

/-- An exact arithmetic in which numbers have their integer parts. -/
class Floored (α : Type) [Scalar α] [Exact α] : Prop where
  floor_eq (a : α) : Scalar.floor a = .ok ⌊value a⌋

instance : Floored ℚ := ⟨fun _ => rfl⟩

variable {α : Type} [Scalar α]

/-- Does a value lie in a bucket? The last bucket holds its end as well. -/
def Bucket.holds (b : Bucket α) (last : Bool) (v : α) : Bool :=
  Scalar.le b.start v && if last then Scalar.le v b.stop else Scalar.lt v b.stop

variable [Exact α]

/-- Buckets end to end between two numbers, each with as many values as lie in it; where the two
numbers are level, all values are counted in the first bucket. -/
structure Partitions (values : List α) (least greatest : ℚ) (n : Nat) (bs : List (Bucket α)) :
    Prop where
  length : bs.length = n
  first : bs.head?.map (fun b => value b.start) = some least
  last : bs.getLast?.map (fun b => value b.stop) = some greatest
  adjacent : bs.IsChain fun b c => value c.start = value b.stop
  counts : least < greatest → ∀ (i : Nat) (b : Bucket α), bs[i]? = some b →
    b.count = values.countP (b.holds (i + 1 = n))
  level : least = greatest →
    bs.map Bucket.count = values.length :: List.replicate (n - 1) 0
  total : (bs.map Bucket.count).sum = values.length

namespace Histogram

omit [Exact α] in
theorem getElem?_row (least greatest width : α) (n : Nat) (count : Nat → Nat) (i : Nat) :
    (row least greatest width n count)[i]? = if i < n then some {
      start := least + Scalar.ofNat i * width
      stop := if i + 1 = n then greatest else least + Scalar.ofNat (i + 1) * width
      count := count i } else none := by
  unfold row
  split
  next inside => rw [List.getElem?_map, List.getElem?_range inside, Option.map_some]
  next outside => simpa [row] using outside

@[simp] theorem value_ofNat (n : Nat) : value (Scalar.ofNat n : α) = n := by
  rw [Scalar.ofNat, value_scientific, NNRatCast.ofScientific_eq_ite, if_neg Bool.false_ne_true]
  simp

section

variable (least greatest width : α) {n : Nat} (count : Nat → Nat)

theorem first_row (some_bucket : 1 ≤ n) :
    (row least greatest width n count).head?.map (fun b => value b.start) = some (value least) := by
  rw [List.head?_eq_getElem?, getElem?_row, if_pos (by omega)]
  simp

theorem last_row (some_bucket : 1 ≤ n) : (row least greatest width n count).getLast?.map
    (fun b => value b.stop) = some (value greatest) := by
  rw [List.getLast?_eq_getElem?, length_row, getElem?_row, if_pos (by omega), Option.map_some,
    if_pos (by omega)]

theorem adjacent_row : (row least greatest width n count).IsChain
    fun b c => value c.start = value b.stop := by
  unfold row
  rw [List.isChain_map, List.isChain_range]
  intro i inner
  have further : i + 1 ≠ n := by omega
  simp [further]

omit [Exact α] in
theorem map_count_row : (row least greatest width n count).map Bucket.count =
    (List.range n).map count := by
  simp [row, Function.comp_def]

end

/-- Where all elements are below a bound, each of them is counted once below it. -/
theorem sum_count {slots : List Nat} {n : Nat} (below : ∀ i ∈ slots, i < n) :
    ((List.range n).map slots.count).sum = slots.length := by
  have all := Multiset.sum_count_eq_card (s := Finset.range n) (m := ↑slots)
    fun i member => Finset.mem_range.2 (below i member)
  simpa [Finset.sum, Multiset.range] using all

section

variable {least width x : α}

/-- The number of widths that a value lies above the least one, rounded down, is its slot. -/
theorem slot_eq [Floored α] (above : value least ≤ value x) (wide : 0 < value width) (last : Nat) :
    slot least width last x = .ok (min ⌊(value x - value least) / value width⌋₊ last) := by
  have nonneg : 0 ≤ (value x - value least) / value width :=
    div_nonneg (sub_nonneg.2 above) wide.le
  rw [slot, Floored.floor_eq, value_div, value_sub]
  dsimp only
  rw [if_neg (Int.floor_nonneg.2 nonneg).not_gt, Int.floor_toNat]

/-- The slot of a value is the bucket that the value lies in. -/
theorem slot_eq_iff_holds {greatest : α} {n i : Nat} (above : value least ≤ value x)
    (below : value x ≤ value greatest) (wide : 0 < value width) (inside : i < n) {b : Bucket α}
    (start : value b.start = value least + i * value width)
    (stop : value b.stop =
      if i + 1 = n then value greatest else value least + (i + 1) * value width) :
    min ⌊(value x - value least) / value width⌋₊ (n - 1) = i ↔ b.holds (i + 1 = n) x = true := by
  have nonneg : 0 ≤ (value x - value least) / value width :=
    div_nonneg (sub_nonneg.2 above) wide.le
  have reached : (i : ℚ) ≤ (value x - value least) / value width ↔ value b.start ≤ value x := by
    rw [le_div_iff₀ wide, start, le_sub_iff_add_le']
  rw [Bucket.holds, Bool.and_eq_true, le_iff, ← reached]
  by_cases last : i + 1 = n
  · rw [if_pos last] at stop
    have clipped : min ⌊(value x - value least) / value width⌋₊ (n - 1) = i ↔
        i ≤ ⌊(value x - value least) / value width⌋₊ := by omega
    rw [clipped, Nat.le_floor_iff nonneg, decide_eq_true last, if_pos rfl, le_iff, stop]
    exact (and_iff_left below).symm
  · rw [if_neg last] at stop
    have left : (value x - value least) / value width < i + 1 ↔ value x < value b.stop := by
      rw [div_lt_iff₀ wide, stop, sub_lt_iff_lt_add']
    have inner : min ⌊(value x - value least) / value width⌋₊ (n - 1) = i ↔
        ⌊(value x - value least) / value width⌋₊ = i := by omega
    rw [inner, Nat.floor_eq_iff nonneg, decide_eq_false last, if_neg Bool.false_ne_true, lt_iff, left]

end

variable [Floored α] {values : List α} {n : Nat}

/-- Where there is a range, the slots of the values give each bucket the values that lie in it. -/
theorem partitions_of_lt {least greatest : α} (low : ∀ v ∈ values, value least ≤ value v)
    (high : ∀ v ∈ values, value v ≤ value greatest) (range : value least < value greatest)
    (some_bucket : 1 ≤ n) :
    ∃ slots, values.mapM (slot least ((greatest - least) / Scalar.ofNat n) (n - 1)) = .ok slots ∧
      Partitions values (value least) (value greatest) n
        (row least greatest ((greatest - least) / Scalar.ofNat n) n slots.count) := by
  have wide : 0 < value ((greatest - least) / Scalar.ofNat n) := by
    rw [value_div, value_sub, value_ofNat]
    exact div_pos (sub_pos.2 range) (by exact_mod_cast some_bucket)
  generalize (greatest - least) / Scalar.ofNat n = width at wide ⊢
  let place (v : α) : Nat := min ⌊(value v - value least) / value width⌋₊ (n - 1)
  have slots : values.mapM (slot least width (n - 1)) = .ok (values.map place) :=
    mapM_eq_ok fun v member => slot_eq (low v member) wide (n - 1)
  refine ⟨values.map place, slots, length_row _ _ _ _ _, first_row _ _ _ _ some_bucket,
    last_row _ _ _ _ some_bucket, adjacent_row _ _ _ _, fun _ i b there => ?_,
    fun level => absurd level range.ne, ?_⟩
  · rw [getElem?_row] at there
    split at there
    next inside =>
      obtain rfl := Option.some.inj there
      rw [List.count, List.countP_map]
      refine List.countP_congr fun v member => ?_
      rw [Function.comp_apply, beq_iff_eq]
      refine slot_eq_iff_holds (low v member) (high v member) wide inside ?_ ?_
      · simp
      · split <;> simp
    next => cases there
  · rw [map_count_row, sum_count, List.length_map]
    refine List.forall_mem_map.2 fun v _ => ?_
    exact (Nat.min_le_right _ _).trans_lt (by omega)

omit [Floored α] in
/-- Where all values are level, the first bucket has them all. -/
theorem partitions_of_eq {least greatest : α} (width : α) (level : value least = value greatest)
    (some_bucket : 1 ≤ n) : Partitions values (value least) (value greatest) n
      (row least greatest width n fun i => if i = 0 then values.length else 0) := by
  have counts : (row least greatest width n fun i => if i = 0 then values.length else 0).map
      Bucket.count = values.length :: List.replicate (n - 1) 0 := by
    obtain ⟨m, rfl⟩ : ∃ m, n = m + 1 := ⟨n - 1, by omega⟩
    rw [map_count_row, List.range_succ_eq_map, List.map_cons, List.map_map]
    simp [Function.comp_def]
  refine ⟨length_row _ _ _ _ _, first_row _ _ _ _ some_bucket, last_row _ _ _ _ some_bucket,
    adjacent_row _ _ _ _, fun range => absurd level range.ne, fun _ => counts, ?_⟩
  rw [counts]
  simp

omit [Floored α] in
/-- The first of some values in ascending order is the least one. -/
theorem exists_head {low : ℚ} (ascending : values.Pairwise fun a b => Scalar.le a b)
    (least : IsLeast {x | x ∈ values.map value} low) :
    ∃ x, values.head? = some x ∧ value x = low := by
  obtain ⟨v, member, rfl⟩ := List.mem_map.1 least.1
  cases values with
  | nil => cases member
  | cons x rest =>
    refine ⟨x, rfl, le_antisymm ?_ (least.2 (List.mem_map_of_mem List.mem_cons_self))⟩
    rcases List.mem_cons.1 member with rfl | later
    · exact le_rfl
    · exact (le_iff x v).1 ((List.pairwise_cons.1 ascending).1 v later)

omit [Floored α] in
theorem exists_getLast {high : ℚ} (ascending : values.Pairwise fun a b => Scalar.le a b)
    (greatest : IsGreatest {x | x ∈ values.map value} high) :
    ∃ y, values.getLast? = some y ∧ value y = high := by
  obtain ⟨v, member, rfl⟩ := List.mem_map.1 greatest.1
  rcases List.eq_nil_or_concat values with rfl | ⟨rest, y, rfl⟩
  · cases member
  rw [List.concat_eq_append] at ascending greatest member ⊢
  have there : y ∈ rest ++ [y] := List.mem_append_right _ List.mem_cons_self
  refine ⟨y, by simp, le_antisymm (greatest.2 (List.mem_map_of_mem there)) ?_⟩
  rcases List.mem_append.1 member with earlier | same
  · exact (le_iff v y).1 ((List.pairwise_append.1 ascending).2.2 v earlier y List.mem_cons_self)
  · rw [List.mem_singleton.1 same]

/-- A histogram of values in ascending order is a partition of them, for every number of buckets. -/
theorem ofSorted_partitions {low high : ℚ} (ascending : values.Pairwise fun a b => Scalar.le a b)
    (least : IsLeast {x | x ∈ values.map value} low)
    (greatest : IsGreatest {x | x ∈ values.map value} high) (some_bucket : 1 ≤ n) :
    ∃ bs, ofSorted values (.int n) = .ok bs ∧ Partitions values low high n bs := by
  obtain ⟨x, first, rfl⟩ := exists_head ascending least
  obtain ⟨y, last, rfl⟩ := exists_getLast ascending greatest
  have above : ∀ v ∈ values, value x ≤ value v := fun v member => least.2 (List.mem_map_of_mem member)
  have below : ∀ v ∈ values, value v ≤ value y :=
    fun v member => greatest.2 (List.mem_map_of_mem member)
  have count (flat : Bool) : bucketCount (.int n : Value α) flat = .ok (n : Int) := rfl
  have enough : ¬ (n : Int) < 1 := by omega
  unfold ofSorted
  rw [first, last]
  dsimp only
  rw [count]
  by_cases level : value y = value x
  · have flat : Scalar.eq y x = true := (eq_iff y x).2 level
    refine ⟨_, except_bind_eq_ok.2 ⟨_, rfl, ?_⟩, partitions_of_eq 0.0 level.symm some_bucket⟩
    rw [if_neg enough, flat, if_pos rfl, Int.toNat_natCast]
  · have range : value x < value y :=
      lt_of_le_of_ne (above y (List.mem_of_getLast? last)) (Ne.symm level)
    have flat : Scalar.eq y x = false := Bool.eq_false_iff.2 (mt (eq_iff y x).1 level)
    obtain ⟨slots, mapped, parts⟩ := partitions_of_lt above below range some_bucket
    refine ⟨_, except_bind_eq_ok.2 ⟨_, rfl, ?_⟩, parts⟩
    rw [if_neg enough, flat, if_neg Bool.false_ne_true, Int.toNat_natCast]
    exact except_bind_eq_ok.2 ⟨slots, mapped, rfl⟩

/-- Values that lie where one bucket ends and the next one starts. -/
def rungs : List ℚ := [0, 1, 1, 2, 4]

/-- Of values on the bounds of buckets, each is counted in the bucket that starts with it, and the
greatest one in the last bucket. -/
theorem ofSorted_partitions_rungs :
    (rungs.Pairwise fun a b => Scalar.le a b) ∧ IsLeast {x | x ∈ rungs.map value} 0 ∧
    IsGreatest {x | x ∈ rungs.map value} 4 ∧
    ∃ bs, ofSorted rungs (.int 4) = .ok bs ∧ Partitions rungs 0 4 4 bs ∧
      bs.map Bucket.count = [1, 2, 1, 1] := by
  have ascending : rungs.Pairwise fun a b => Scalar.le a b := by decide +kernel
  have above : ∀ x ∈ rungs.map value, 0 ≤ x := by decide +kernel
  have below : ∀ x ∈ rungs.map value, x ≤ 4 := by decide +kernel
  have least : IsLeast {x | x ∈ rungs.map value} 0 := ⟨by decide +kernel, above⟩
  have greatest : IsGreatest {x | x ∈ rungs.map value} 4 := ⟨by decide +kernel, below⟩
  obtain ⟨bs, made, parts⟩ := ofSorted_partitions (n := 4) ascending least greatest (by decide)
  have counted : (ofSorted rungs (.int 4)).toOption.map (·.map Bucket.count) = some [1, 2, 1, 1] := by
    decide +kernel
  obtain ⟨_, made', counted⟩ := except_toOption_map_eq_some.1 counted
  obtain rfl := Except.ok.inj (made.symm.trans made')
  exact ⟨ascending, least, greatest, bs, made, parts, counted⟩

end Histogram

end Dungeon
