import Dungeon.Proofs.Parameter
import Dungeon.Proofs.Rounding

/-!
# Values that fit a declaration

The check of a declaration lets through what fits it: a number within its bounds, a truth value, one of
the options, a text. Numbers are moved to the bounds, and stay there; a value that fits passes as it is.
-/

namespace Dungeon

variable {α : Type} [Scalar α]

open Value

/-- Not an undefined number. Parts of the value may be. -/
def Value.Defined (v : Value α) : Prop := ∀ n, v = .num n → n.Defined

namespace Parameter

/-- A bound that is not given or a number. -/
def Bounding (bound : Value α) : Prop := bound = .null ∨ ∃ n : Number α, bound = .num n ∧ n.Defined

/-- A declaration whose bounds, if they count, are numbers in order. -/
structure WellTyped (p : Parameter α) : Prop where
  low : p.type = .number → Bounding p.low
  high : p.type = .number → Bounding p.high
  ordered : p.type = .number → ∀ m n, p.low = .num m → p.high = .num n → m.le n = true
  default : p.default.Defined

/-- Not below a bound that is given. -/
def AtLeast (bound : Value α) (n : Number α) : Prop := ∀ m, bound = .num m → m.le n = true

/-- Not above a bound that is given. -/
def AtMost (bound : Value α) (n : Number α) : Prop := ∀ m, bound = .num m → n.le m = true

/-- What a declaration asks of the value of the parameter. -/
def Fits (p : Parameter α) (v : Value α) : Prop :=
  match p.type with
  | .number => ∃ n, v = .num n ∧ AtLeast p.low n ∧ AtMost p.high n
  | .boolean => ∃ b, v = .bool b
  | .select => ∃ w ∈ p.options, Value.eq v w = true
  | .string => ∃ s, v = .text s

/-- Not on the far side of a bound that is given. -/
def Within (r : Relation) (bound : Value α) (n : Number α) : Prop :=
  ∀ m, bound = .num m → r.numbers n m = false

section

variable [Rounding α] {bound : Value α} {n : Number α}

omit [Rounding α] in
theorem Bounding.defined (bounding : Bounding bound) {m : Number α} (given : bound = .num m) :
    m.Defined := by
  rcases bounding with rfl | ⟨m', rfl, defined⟩
  · cases given
  · cases given
    exact defined

theorem atLeast_iff (bounding : Bounding bound) (defined : n.Defined) :
    AtLeast bound n ↔ Within .lt bound n := by
  refine forall_congr' fun m => imp_congr_right fun given => ?_
  rw [Number.le_eq_not_lt (bounding.defined given) defined, Bool.not_eq_true']
  rfl

theorem atMost_iff (bounding : Bounding bound) (defined : n.Defined) :
    AtMost bound n ↔ Within .gt bound n := by
  refine forall_congr' fun m => imp_congr_right fun given => ?_
  rw [Number.le_eq_not_lt defined (bounding.defined given), Bool.not_eq_true']
  rfl

omit [Rounding α] in
/-- A number that is beyond a bound is moved to the bound. -/
theorem exists_moved {r : Relation} (strict : ∀ m : Number α, m.Defined → r.numbers m m = false)
    (bounding : Bounding bound) (defined : n.Defined) :
    ∃ far, ∃ k : Number α, beyond r (.num n) bound = .ok far ∧
      (if far then bound else .num n) = .num k ∧ k.Defined ∧ Within r bound k ∧
      (k = n ∨ bound = .num k) ∧ (Within r bound n → k = n) := by
  rcases bounding with rfl | ⟨m, rfl, given⟩
  · exact ⟨false, n, rfl, rfl, defined, (fun _ absent => nomatch absent), .inl rfl, fun _ => rfl⟩
  have compared : beyond r (.num n) (.num m) = .ok (r.numbers n m) := by
    show Value.compare r (.num n) (.num m) = _
    exact compare_numbers r rfl rfl
  cases far : r.numbers n m with
  | true =>
    refine ⟨true, m, far ▸ compared, rfl, given, ?_, .inr rfl, fun within => ?_⟩
    · rintro _ ⟨⟩
      exact strict m given
    · rw [within m rfl] at far
      cases far
  | false =>
    refine ⟨false, n, far ▸ compared, rfl, defined, ?_, .inl rfl, fun _ => rfl⟩
    rintro _ ⟨⟩
    exact far

/-- Clamping gives a number within the bounds, and such a number stays. -/
theorem clamp_spec {p : Parameter α} (typed : p.WellTyped) (type : p.type = .number)
    (defined : n.Defined) :
    ∃ k : Number α, p.clamp (.num n) = .ok (.num k) ∧ k.Defined ∧
      AtLeast p.low k ∧ AtMost p.high k ∧ (AtLeast p.low n → AtMost p.high n → k = n) := by
  have low := typed.low type
  have high := typed.high type
  obtain ⟨below, m, raise, raised, defined', above, -, kept⟩ :=
    exists_moved (r := .lt) (fun m => Number.lt_irrefl) low defined
  obtain ⟨lowerThan, k, lower, lowered, defined'', under, origin, kept'⟩ :=
    exists_moved (r := .gt) (fun m => Number.lt_irrefl) high defined'
  refine ⟨k, ?_, defined'', ?_, (atMost_iff high defined'').2 under, fun least most => ?_⟩
  · rw [clamp_eq]
    refine except_bind_eq_ok.2 ⟨below, raise, except_bind_eq_ok.2 ⟨lowerThan, ?_, ?_⟩⟩
    · rw [raised, lower]
    · rw [raised, lowered]
      rfl
  · -- The upper bound is not below the lower one, so lowering stops in time.
    rcases origin with rfl | bounded
    · exact (atLeast_iff low defined'').2 above
    · exact fun l given => typed.ordered type l k given bounded
  · obtain rfl : m = n := kept ((atLeast_iff low defined).1 least)
    exact kept' ((atMost_iff high defined).1 most)

end

variable [Rounding α] {p : Parameter α} {v w : Value α}

/-- What passes the check fits the declaration. -/
theorem fits_of_coerce (typed : p.WellTyped) (defined : v.Defined) (done : p.coerce v = .ok w) :
    p.Fits w ∧ w.Defined := by
  unfold coerce at done
  unfold Fits
  cases type : p.type with
  | number =>
    rw [type] at done
    cases v with
    | num n =>
      obtain ⟨k, clamped, defined', least, most, -⟩ := clamp_spec typed type (defined n rfl)
      obtain rfl := Except.ok.inj (clamped.symm.trans done)
      refine ⟨⟨k, rfl, least, most⟩, ?_⟩
      rintro _ ⟨⟩
      exact defined'
    | _ => cases done
  | boolean =>
    rw [type] at done
    cases v with
    | bool b =>
      obtain rfl := Except.ok.inj done
      exact ⟨⟨b, rfl⟩, defined⟩
    | _ => cases done
  | select =>
    rw [type] at done
    dsimp only at done
    split at done
    next among =>
      obtain rfl := Except.ok.inj done
      exact ⟨List.any_eq_true.1 among, defined⟩
    next => cases done
  | string =>
    rw [type] at done
    obtain ⟨s, _, rfl⟩ := except_map_eq_ok.1 done
    exact ⟨⟨s, rfl⟩, fun _ number => nomatch number⟩

/-- What fits the declaration passes the check as it is. -/
theorem coerce_of_fits (typed : p.WellTyped) (defined : v.Defined) (fits : p.Fits v) :
    p.coerce v = .ok v := by
  unfold Fits at fits
  unfold coerce
  cases type : p.type with
  | number =>
    rw [type] at fits
    obtain ⟨n, rfl, least, most⟩ := fits
    obtain ⟨k, clamped, -, -, -, stays⟩ := clamp_spec typed type (defined n rfl)
    rw [stays least most] at clamped
    exact clamped
  | boolean =>
    rw [type] at fits
    obtain ⟨b, rfl⟩ := fits
    rfl
  | select =>
    rw [type] at fits
    exact if_pos (List.any_eq_true.2 fits)
  | string =>
    rw [type] at fits
    obtain ⟨s, rfl⟩ := fits
    rfl

end Parameter

end Dungeon
