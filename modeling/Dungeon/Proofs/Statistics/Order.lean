import Dungeon.Proofs.Double.Product
import Dungeon.Proofs.Failing
import Dungeon.Proofs.Sorting
import Dungeon.Statistics.Distribution

/-!
# Order statistics

A percentile is the value at its part of the way from the first to the last one of the values in
ascending order, while half of all values stand in front of the median. Both places are rounded down.
The median stands between the percentiles of a quarter and of three quarters, with one exception: of
two values it is the greater one, while all percentiles are the smaller one.
-/

namespace Dungeon

open Scalar (isUndefined)

/-- A double may stand before another one if it is not behind it, or if the other one is undefined. -/
theorem before_float_iff {a b : Float} : Distribution.before a b = true ↔
    ∀ y, place? b = some y → ∃ x, place? a = some x ∧ x ≤ y := by
  have less : Scalar.lt b a = true ↔ ∃ y x, place? b = some y ∧ place? a = some x ∧ y < x :=
    lt_float_iff
  have ha := defined_float_iff (a := a)
  have hb := defined_float_iff (a := b)
  rw [Distribution.before, Bool.not_eq_true', Bool.or_eq_false_iff, Bool.eq_false_iff, ne_eq, less,
    Bool.and_eq_false_iff, Bool.not_eq_false', ha, ← Bool.not_eq_false, hb]
  cases place? a <;> cases place? b <;> simp

theorem before_float_total (a b : Float) :
    Distribution.before a b = true ∨ Distribution.before b a = true := by
  rw [before_float_iff, before_float_iff]
  cases pa : place? a with
  | none => exact .inr fun x given => by cases given
  | some x =>
    cases pb : place? b with
    | none => exact .inl fun y given => by cases given
    | some y => simpa using le_total x y

theorem before_float_trans (a b c : Float) (first : Distribution.before a b = true)
    (second : Distribution.before b c = true) : Distribution.before a c = true := by
  rw [before_float_iff] at *
  intro z given
  obtain ⟨y, given, le⟩ := second z given
  obtain ⟨x, given, le'⟩ := first y given
  exact ⟨x, given, le'.trans le⟩

namespace Double

theorem fraction_p5 : Fraction 0.05 (7205759403792794 / 2 ^ 57) :=
  .of_unpacked (m := 7205759403792794) (d := 57) (by rfl) (by decide) (by decide)

theorem fraction_p25 : Fraction 0.25 ((2 ^ 52 : ℕ) / 2 ^ 54) :=
  .of_unpacked (by rfl) (by decide) (by decide)

theorem fraction_p75 : Fraction 0.75 ((3 * 2 ^ 51 : ℕ) / 2 ^ 53) :=
  .of_unpacked (by rfl) (by decide) (by decide)

theorem fraction_p95 : Fraction 0.95 ((8556839292003942 : ℕ) / 2 ^ 53) :=
  .of_unpacked (by rfl) (by decide) (by decide)

end Double

namespace Distribution

theorem ascending_pairwise {values : List Float} (finite : ∀ x ∈ values, Scalar.isFinite x = true) :
    (ascending values).Pairwise fun a b => Scalar.le a b := by
  have sorted := sortBy_pairwise before_float_total before_float_trans values
  refine sorted.imp_of_mem fun {a b} _ member first => ?_
  have defined := Rounding.defined_of_finite (finite b ((sortBy_perm _ values).mem_iff.1 member))
  obtain ⟨y, given⟩ := defined_float_iff.1 defined
  obtain ⟨x, given', le⟩ := before_float_iff.1 first y given
  exact le_float_iff.2 ⟨x, y, given', given, le⟩

/-- The place of a fraction is close to that fraction of the way. -/
theorem exists_place {p : Float} {v : ℚ} (h : Double.Fraction p v) (small : v ≤ 31 / 32) {n : Nat}
    (finite : Scalar.isFinite (Scalar.ofNat n : Float) = true) :
    ∃ i, place (n + 1) (.real p) = .ok i ∧ i < n + 1 ∧ (i : ℚ) ≤ v * n * (1 + 1 / 2 ^ 50) ∧
      v * n * (1 - 1 / 2 ^ 50) < i + 1 := by
  obtain ⟨x, whole, close⟩ := h.exists_floor finite
  obtain ⟨low, high⟩ := abs_le.1 close
  have positive : 0 < v := (zpow_pos two_pos _).trans_le h.pos
  have nonneg : 0 ≤ v * n := by positivity
  have above : 0 ≤ x := by linarith
  have below : x < n + 1 := by
    have most : v * n ≤ 31 / 32 * n := mul_le_mul_of_nonneg_right small (Nat.cast_nonneg n)
    linarith
  obtain ⟨i, floor⟩ : ∃ i : ℕ, ⌊x⌋ = i := Int.eq_ofNat_of_zero_le (Int.floor_nonneg.2 above)
  obtain ⟨reached, left⟩ := Int.floor_eq_iff.1 floor
  rw [Int.cast_natCast] at reached left
  have inside : i < n + 1 := by
    have bound : (i : ℚ) < (n + 1 : ℕ) := by
      push_cast
      exact reached.trans_lt below
    exact_mod_cast bound
  refine ⟨i, ?_, inside, by linarith, by linarith⟩
  unfold place
  rw [if_neg (Nat.succ_ne_zero n)]
  refine except_bind_eq_ok.2 ⟨(i : Int), ?_, ?_⟩
  · show (Scalar.floor (p * Scalar.ofNat (n + 1 - 1))).mapError NoWhole.fault = _
    rw [Nat.add_sub_cancel, whole, floor]
    rfl
  · dsimp only
    rw [if_pos (by omega), Int.toNat_natCast]
    rfl

/-- A length that is too large for a double has no places. -/
theorem place_infinite {p : Float} {v : ℚ} (h : Double.Fraction p v) {n : Nat}
    (infinite : Scalar.isFinite (Scalar.ofNat n : Float) = false) (i : Nat) :
    place (n + 1) (.real p) ≠ .ok i := by
  intro placed
  unfold place at placed
  rw [if_neg (Nat.succ_ne_zero n)] at placed
  obtain ⟨k, whole, -⟩ := except_bind_eq_ok.1 placed
  change (Scalar.floor (p * Scalar.ofNat (n + 1 - 1))).mapError NoWhole.fault = .ok k at whole
  rw [Nat.add_sub_cancel, h.floor_infinite infinite] at whole
  cases whole

/-- The places of the four percentiles of `n + 1` values, on the two sides of the median. -/
structure Ranks (n i j k l : Nat) : Prop where
  p5 : place (n + 1) (.real (0.05 : Float)) = .ok i
  p25 : place (n + 1) (.real (0.25 : Float)) = .ok j
  p75 : place (n + 1) (.real (0.75 : Float)) = .ok k
  p95 : place (n + 1) (.real (0.95 : Float)) = .ok l
  low : i ≤ j
  middle : j ≤ (n + 1) / 2
  across : j ≤ k
  high : k ≤ l
  inside : l < n + 1
  upper : n ≠ 1 → (n + 1) / 2 ≤ k
  pair : n = 1 → l = 0

theorem le_of_cast_lt {i j : Nat} (less : (i : ℚ) < j + 1) : i ≤ j :=
  Nat.lt_succ_iff.1 (by exact_mod_cast less)

/-- Rounding moves a place too little to change the order of the places, whatever the length. -/
theorem exists_ranks {n : Nat} (finite : Scalar.isFinite (Scalar.ofNat n : Float) = true) :
    ∃ i j k l, Ranks n i j k l := by
  obtain ⟨i, p5, -, most5, -⟩ := exists_place Double.fraction_p5 (by norm_num) finite
  obtain ⟨j, p25, -, most25, least25⟩ := exists_place Double.fraction_p25 (by norm_num) finite
  obtain ⟨k, p75, -, most75, least75⟩ := exists_place Double.fraction_p75 (by norm_num) finite
  obtain ⟨l, p95, inside, most95, least95⟩ := exists_place Double.fraction_p95 (by norm_num) finite
  have nonneg : (0 : ℚ) ≤ n := Nat.cast_nonneg n
  norm_num at most5 most25 least25 most75 least75 most95 least95
  refine ⟨i, j, k, l, p5, p25, p75, p95, le_of_cast_lt (by linarith), ?_, le_of_cast_lt (by linarith),
    le_of_cast_lt (by linarith), inside, fun several => ?_, fun two => ?_⟩
  · have half : (2 * j : ℕ) ≤ n := by
      have bound : ((2 * j : ℕ) : ℚ) ≤ n := by
        push_cast
        linarith
      exact_mod_cast bound
    omega
  · rcases Nat.lt_or_ge n 3 with few | more
    · interval_cases n
      · exact Nat.zero_le k
      · exact absurd rfl several
      · exact le_of_cast_lt (by linarith)
    · have some_more : (3 : ℚ) ≤ n := by exact_mod_cast more
      refine le_of_cast_lt ?_
      calc (((n + 1) / 2 : ℕ) : ℚ) ≤ ((n + 1 : ℕ) : ℚ) / (2 : ℕ) := Nat.cast_div_le
        _ < k + 1 := by
          push_cast
          linarith
  · subst two
    have below : (l : ℚ) < 1 := most95.trans_lt (by norm_num)
    exact Nat.lt_one_iff.1 (by exact_mod_cast below)

/-- What a distribution of some values in ascending order takes from an arithmetic that can fail: their
sum, that of the squares, a count and a histogram. -/
structure Computable (sorted : List Float) (buckets : Value Float) : Prop where
  sums : ∃ total spread, sum sorted = .ok total ∧
    sumOfSquares (sorted.map fun x => x - total / Scalar.ofNat sorted.length) = .ok spread
  count : Scalar.isFinite (Scalar.ofNat (sorted.length - 1) : Float) = true
  histogram : ∃ bs, Histogram.ofSorted sorted buckets = .ok bs

/-- The order statistics of `n` values are in order, save that the median of two values is the greater
one and all percentiles are the other one. -/
structure Graded (d : Distribution Float) (n : Nat) : Prop where
  low : Scalar.le d.min d.p5 = true ∧ Scalar.le d.p5 d.p25 = true
  middle : Scalar.le d.p25 d.median = true ∧ Scalar.le d.median d.max = true
  across : Scalar.le d.p25 d.p75 = true
  high : Scalar.le d.p75 d.p95 = true ∧ Scalar.le d.p95 d.max = true
  upper : n ≠ 2 → Scalar.le d.median d.p75 = true
  pair : n = 2 → (d.p5 = d.min ∧ d.p25 = d.min ∧ d.p75 = d.min ∧ d.p95 = d.min) ∧ d.median = d.max

/-- A percentile that is given is the value at its place. -/
theorem percentile_eq_ok_iff {values : List Float} {fraction : Value Float} {x : Float} :
    percentile values fraction = .ok x ↔
      ∃ i, place values.length fraction = .ok i ∧ values[i]? = some x := by
  unfold percentile
  rw [except_bind_eq_ok]
  refine exists_congr fun i => and_congr_right fun _ => ?_
  cases values[i]? with
  | none => exact iff_of_false (fun given => by cases given) (fun given => by cases given)
  | some y => exact ⟨fun given => congrArg some (Except.ok.inj given),
      fun given => congrArg Except.ok (Option.some.inj given)⟩

/-- What a distribution reads off the values in ascending order. -/
structure Reads (d : Distribution Float) (sorted : List Float) : Prop where
  min : sorted[0]? = some d.min
  max : sorted[sorted.length - 1]? = some d.max
  median : sorted[sorted.length / 2]? = some d.median
  p5 : percentile sorted (.real 0.05) = .ok d.p5
  p25 : percentile sorted (.real 0.25) = .ok d.p25
  p75 : percentile sorted (.real 0.75) = .ok d.p75
  p95 : percentile sorted (.real 0.95) = .ok d.p95

/-- A count of values that has a percentile is a finite double. -/
theorem finite_of_percentile {values : List Float} {p x : Float} {v : ℚ} (h : Double.Fraction p v)
    (some_value : values ≠ []) (given : percentile values (.real p) = .ok x) :
    Scalar.isFinite (Scalar.ofNat (values.length - 1) : Float) = true := by
  obtain ⟨n, length⟩ : ∃ n, values.length = n + 1 :=
    Nat.exists_eq_succ_of_ne_zero (List.length_pos_of_ne_nil some_value).ne'
  obtain ⟨i, placed, -⟩ := percentile_eq_ok_iff.1 given
  rw [length] at placed ⊢
  by_contra infinite
  exact place_infinite h (Bool.eq_false_iff.2 infinite) i placed

/-- A distribution that is made reads its values off the sorted ones. -/
theorem reads_of_ofValues {values : List Float} {buckets : Value Float} {d : Distribution Float}
    (some_value : ascending values ≠ []) (made : ofValues values buckets = .ok d) :
    d.Reads (ascending values) ∧ Computable (ascending values) buckets := by
  unfold ofValues at made
  generalize ascending values = sorted at some_value made ⊢
  dsimp only at made
  split at made
  next least greatest middle first last half =>
    obtain ⟨total, summed, made⟩ := except_bind_eq_ok.1 made
    obtain ⟨spread, squared, made⟩ := except_bind_eq_ok.1 made
    obtain ⟨x5, p5, made⟩ := except_bind_eq_ok.1 made
    obtain ⟨x25, p25, made⟩ := except_bind_eq_ok.1 made
    obtain ⟨x75, p75, made⟩ := except_bind_eq_ok.1 made
    obtain ⟨x95, p95, made⟩ := except_bind_eq_ok.1 made
    obtain ⟨bs, histogram, made⟩ := except_bind_eq_ok.1 made
    cases made
    rw [List.head?_eq_getElem?] at first
    rw [List.getLast?_eq_getElem?] at last
    exact ⟨⟨first, last, half, p5, p25, p75, p95⟩, ⟨total, spread, summed, squared⟩,
      finite_of_percentile Double.fraction_p5 some_value p5, bs, histogram⟩
  next missing =>
    have count := List.length_pos_of_ne_nil some_value
    have half : sorted.length / 2 < sorted.length := Nat.div_lt_self count one_lt_two
    exact (missing _ _ _ (List.head?_eq_some_head some_value)
      (List.getLast?_eq_some_getLast some_value) (List.getElem?_eq_getElem half)).elim

/-- All places are found, so that nothing else can keep a distribution from being made. -/
theorem exists_ofValues {values : List Float} {buckets : Value Float}
    (some_value : ascending values ≠ []) (computable : Computable (ascending values) buckets) :
    ∃ d, ofValues values buckets = .ok d := by
  unfold ofValues
  generalize ascending values = sorted at some_value computable ⊢
  obtain ⟨⟨total, spread, summed, squared⟩, count, bs, histogram⟩ := computable
  obtain ⟨n, length⟩ : ∃ n, sorted.length = n + 1 :=
    Nat.exists_eq_succ_of_ne_zero (List.length_pos_of_ne_nil some_value).ne'
  have half : sorted.length / 2 < sorted.length := by omega
  rw [length, Nat.add_sub_cancel] at count
  obtain ⟨i, j, k, l, ranks⟩ := exists_ranks count
  have given {p : Float} {r : Nat} (rank : place (n + 1) (.real p) = .ok r) (inside : r < n + 1) :
      ∃ x, percentile sorted (.real p) = .ok x := by
    have inside : r < sorted.length := length ▸ inside
    exact ⟨sorted[r], percentile_eq_ok_iff.2 ⟨r, length ▸ rank, List.getElem?_eq_getElem inside⟩⟩
  have low := ranks.low
  have middle := ranks.middle
  have high := ranks.high
  have inside := ranks.inside
  obtain ⟨x5, p5⟩ := given ranks.p5 (by omega)
  obtain ⟨x25, p25⟩ := given ranks.p25 (by omega)
  obtain ⟨x75, p75⟩ := given ranks.p75 (by omega)
  obtain ⟨x95, p95⟩ := given ranks.p95 inside
  dsimp only
  rw [List.head?_eq_some_head some_value, List.getLast?_eq_some_getLast some_value,
    List.getElem?_eq_getElem half]
  exact ⟨_, except_bind_eq_ok.2 ⟨total, summed, except_bind_eq_ok.2 ⟨spread, squared,
    except_bind_eq_ok.2 ⟨x5, p5, except_bind_eq_ok.2 ⟨x25, p25, except_bind_eq_ok.2 ⟨x75, p75,
    except_bind_eq_ok.2 ⟨x95, p95, except_bind_eq_ok.2 ⟨bs, histogram, rfl⟩⟩⟩⟩⟩⟩⟩⟩

/-- In ascending order, values at later places are not smaller. -/
theorem le_of_getElem? {sorted : List Float} (ascending : sorted.Pairwise fun a b => Scalar.le a b)
    (defined : ∀ x ∈ sorted, isUndefined x = false) {i j : Nat} {x y : Float} (le : i ≤ j)
    (first : sorted[i]? = some x) (second : sorted[j]? = some y) : Scalar.le x y = true := by
  obtain ⟨hi, rfl⟩ := List.getElem?_eq_some_iff.1 first
  obtain ⟨hj, rfl⟩ := List.getElem?_eq_some_iff.1 second
  rcases le.lt_or_eq with less | rfl
  · exact List.pairwise_iff_getElem.1 ascending i j hi hj less
  · exact Ordered.le_refl (defined _ (List.getElem_mem hi))

theorem Reads.graded {d : Distribution Float} {sorted : List Float} {n i j k l : Nat}
    (reads : d.Reads sorted) (length : sorted.length = n + 1) (ranks : Ranks n i j k l)
    (ascending : sorted.Pairwise fun a b => Scalar.le a b)
    (defined : ∀ x ∈ sorted, isUndefined x = false) : d.Graded (n + 1) := by
  have placed {p x : Float} {r : Nat} (there : percentile sorted (.real p) = .ok x)
      (rank : place (n + 1) (.real p) = .ok r) : sorted[r]? = some x := by
    obtain ⟨r', rank', found⟩ := percentile_eq_ok_iff.1 there
    rw [length, rank] at rank'
    obtain rfl := Except.ok.inj rank'
    exact found
  have min := reads.min
  have max := reads.max
  have median := reads.median
  rw [length] at max median
  have p5 := placed reads.p5 ranks.p5
  have p25 := placed reads.p25 ranks.p25
  have p75 := placed reads.p75 ranks.p75
  have p95 := placed reads.p95 ranks.p95
  have low := ranks.low
  have across := ranks.across
  have high := ranks.high
  have inside := ranks.inside
  have order {a b : Nat} {x y : Float} (le : a ≤ b) (first : sorted[a]? = some x)
      (second : sorted[b]? = some y) : Scalar.le x y = true :=
    le_of_getElem? ascending defined le first second
  refine ⟨⟨order (Nat.zero_le _) min p5, order low p5 p25⟩,
    ⟨order ranks.middle p25 median, order (by omega) median max⟩, order across p25 p75,
    ⟨order high p75 p95, order (by omega) p95 max⟩,
    fun several => order (ranks.upper (by omega)) median p75, fun two => ?_⟩
  obtain rfl : n = 1 := by omega
  have last := ranks.pair rfl
  have first {r : Nat} {x : Float} (le : r ≤ l) (there : sorted[r]? = some x) : x = d.min := by
    rw [show r = 0 by omega, min] at there
    exact (Option.some.inj there).symm
  exact ⟨⟨first (by omega) p5, first (by omega) p25, first high p75, first le_rfl p95⟩,
    Option.some.inj (median.symm.trans max)⟩

/-- Whatever the values and the buckets are, the order statistics of a distribution are in order, with the
exception of two values. Places are always found: a distribution is made iff its sums, its count and its
histogram can be computed. -/
theorem ofValues_graded {values : List Float} (some_value : values ≠ [])
    (finite : ∀ x ∈ values, Scalar.isFinite x = true) (buckets : Value Float) :
    ((∃ d, ofValues values buckets = .ok d) ↔ Computable (ascending values) buckets) ∧
    ∀ d, ofValues values buckets = .ok d → d.Graded values.length := by
  have perm : (ascending values).Perm values := sortBy_perm before values
  have some_sorted : ascending values ≠ [] := fun none => some_value (none ▸ perm).nil_eq.symm
  refine ⟨⟨fun ⟨d, made⟩ => (reads_of_ofValues some_sorted made).2, exists_ofValues some_sorted⟩,
    fun d made => ?_⟩
  obtain ⟨reads, computable⟩ := reads_of_ofValues some_sorted made
  obtain ⟨n, length⟩ : ∃ n, values.length = n + 1 :=
    Nat.exists_eq_succ_of_ne_zero (List.length_pos_of_ne_nil some_value).ne'
  have sorted : (ascending values).length = n + 1 := perm.length_eq.trans length
  have count := computable.count
  rw [sorted, Nat.add_sub_cancel] at count
  obtain ⟨i, j, k, l, ranks⟩ := exists_ranks count
  rw [length]
  exact reads.graded sorted ranks (ascending_pairwise finite)
    fun x member => Rounding.defined_of_finite (finite x (perm.mem_iff.1 member))

/-- Four values, where the median is the upper one of two in the middle. All that the machine has to
supply for their distribution is the squares of four numbers; with exact numbers it is there. -/
theorem ofValues_graded_four :
    ([4.0, 1.0, 3.0, 2.0] : List Float) ≠ [] ∧
    (∀ x ∈ ([4.0, 1.0, 3.0, 2.0] : List Float), Scalar.isFinite x = true) ∧
    (∀ buckets d, ofValues [4.0, 1.0, 3.0, 2.0] buckets = .ok d →
      Scalar.le d.p25 d.median = true ∧ Scalar.le d.median d.p75 = true) ∧
    ((∃ spread, sumOfSquares (([1.0, 2.0, 3.0, 4.0] : List Float).map fun x => x - 2.5) = .ok spread) →
      ∃ d, ofValues [4.0, 1.0, 3.0, 2.0] (.int 2 : Value Float) = .ok d ∧ d.Graded 4) ∧
    (ofValues [4.0, 1.0, 3.0, 2.0] (.int 2 : Value ℚ)).toOption.map
      (fun d => (d.p25, d.median, d.p75, d.histogram.map Bucket.count)) =
        some ((1 : ℚ), (3 : ℚ), (3 : ℚ), [2, 2]) := by
  have some_value : ([4.0, 1.0, 3.0, 2.0] : List Float) ≠ [] := List.cons_ne_nil _ _
  have finite : ∀ x ∈ ([4.0, 1.0, 3.0, 2.0] : List Float), Scalar.isFinite x = true := by decide +kernel
  refine ⟨some_value, finite, fun buckets d made => ?_, fun ⟨spread, squared⟩ => ?_, by decide +kernel⟩
  · have graded := (ofValues_graded some_value finite buckets).2 d made
    exact ⟨graded.middle.1, graded.upper (by decide)⟩
  · have sorted : ascending ([4.0, 1.0, 3.0, 2.0] : List Float) = [1.0, 2.0, 3.0, 4.0] := by rfl
    have mean : (10.0 : Float) / Scalar.ofNat 4 = 2.5 := by decide +kernel
    have computable : Computable (ascending [4.0, 1.0, 3.0, 2.0]) (.int 2) := by
      rw [sorted]
      refine ⟨⟨10.0, spread, by rfl, ?_⟩, by decide +kernel, ?_⟩
      · rw [show ([1.0, 2.0, 3.0, 4.0] : List Float).length = 4 from rfl, mean]
        exact squared
      · have buckets : ((Histogram.ofSorted ([1.0, 2.0, 3.0, 4.0] : List Float)
            (.int 2)).toOption.map List.length) = some 2 := by decide +kernel
        obtain ⟨bs, given, _⟩ := except_toOption_map_eq_some.1 buckets
        exact ⟨bs, given⟩
    obtain ⟨d, made⟩ := (ofValues_graded some_value finite (.int 2)).1.2 computable
    exact ⟨d, made, (ofValues_graded some_value finite (.int 2)).2 d made⟩

/-- Of the values 1 and 2 the median stands above three quarters, with exact numbers as with doubles. Two
large values have no distribution, since their sum is too large. -/
theorem ofValues_pair :
    (¬ ∃ d, ofValues [1.0, 2.0] (.int 10 : Value Float) = .ok d ∧ Scalar.le d.median d.p75 = true) ∧
    (∃ d, ofValues [1.0, 2.0] (.int 10 : Value ℚ) = .ok d ∧ Scalar.le d.median d.p75 = false) ∧
    ¬ ∃ d, ofValues [1.0e308, 1.0e308] (.int 10 : Value Float) = .ok d := by
  refine ⟨?_, ?_, ?_⟩
  · rintro ⟨d, made, le⟩
    obtain ⟨reads, -⟩ := reads_of_ofValues (by decide +kernel) made
    have p75 : percentile (ascending [1.0, 2.0]) (.real 0.75) = .ok (1.0 : Float) := by rfl
    have median : (ascending [1.0, 2.0])[(ascending [1.0, 2.0]).length / 2]? = some (2.0 : Float) := by
      rfl
    rw [← Except.ok.inj (p75.symm.trans reads.p75),
      ← Option.some.inj (median.symm.trans reads.median)] at le
    exact absurd le (by decide +kernel)
  · have above : (ofValues [1.0, 2.0] (.int 10 : Value ℚ)).toOption.map
        (fun d => Scalar.le d.median d.p75) = some false := by
      decide +kernel
    exact except_toOption_map_eq_some.1 above
  · rintro ⟨d, made⟩
    have none : (ofValues [1.0e308, 1.0e308] (.int 10 : Value Float)).toOption.isNone = true := by
      decide +kernel
    rw [made] at none
    cases none

end Distribution

end Dungeon
