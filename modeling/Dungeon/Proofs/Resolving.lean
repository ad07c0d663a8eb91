import Dungeon.Proofs.Double.Nearest
import Dungeon.Proofs.Fields
import Dungeon.Proofs.Fitting

/-!
# What parameters resolve to

Defaults and overrides are checked and entered one after another. Since what fits a declaration passes its
check as it is, the values that resolving gives resolve to themselves. The room sizes among them, if they
are set, give every size range proper sizes.
-/

namespace Dungeon

variable {α : Type} [Scalar α]

open Value

namespace Bindings

variable {declared : List (Parameter α)}

theorem eq_of_declaration? {name : Value α} {p : Parameter α}
    (found : declaration? declared name = some p) : Value.eq name (.text p.name) = true := by
  rw [declaration?, List.find?_eq_some_iff_append] at found
  exact found.1

/-- An override after the check of the declaration of its name. -/
def check (declared : List (Parameter α)) (name v : Value α) : Except Fault (Value α) :=
  match declaration? declared name with
  | some p => p.coerce v
  | none => .ok v

/-- An override that passes as a field with the same key. -/
def Passes (declared : List (Parameter α)) (p q : Value α × Value α) : Prop :=
  q.1 = p.1 ∧ check declared p.1 p.2 = .ok q.2

theorem override_cons (b : Bindings α) (p : Value α × Value α) (rest : Fields α) :
    override declared b (p :: rest) =
      check declared p.1 p.2 >>= fun w => override declared (b.insert p.1 w) rest := by
  unfold override check
  rw [List.foldlM_cons]
  dsimp only
  cases declaration? declared p.1 with
  | none => rfl
  | some d =>
    dsimp only
    cases d.coerce p.2 <;> rfl

/-- Overriding is checking everything and entering it in turn. -/
theorem override_eq_ok {b v : Bindings α} {overrides : Fields α} :
    override declared b overrides = .ok v ↔
      ∃ passed : Fields α, List.Forall₂ (Passes declared) overrides passed ∧ v = b.extend passed := by
  induction overrides generalizing b with
  | nil =>
    constructor
    · intro done
      exact ⟨[], .nil, (Except.ok.inj done).symm⟩
    · rintro ⟨_, ⟨⟩, rfl⟩
      rfl
  | cons p rest ih =>
    rw [override_cons, except_bind_eq_ok]
    constructor
    · rintro ⟨w, checked, done⟩
      obtain ⟨passed, all, rfl⟩ := ih.1 done
      exact ⟨(p.1, w) :: passed, .cons ⟨rfl, checked⟩ all, rfl⟩
    · rintro ⟨_, both, rfl⟩
      obtain ⟨q, passed, ⟨same, checked⟩, all, rfl⟩ := List.forall₂_cons_left_iff.1 both
      exact ⟨q.2, checked, ih.2 ⟨passed, all, by rw [← same]; rfl⟩⟩

/-- The defaults that are declared, as overrides. -/
def given (declared : List (Parameter α)) : Fields α :=
  (declared.filter fun p => !p.default.isNull).map fun p => (.text p.name, p.default)

section

variable (names : (declared.map Parameter.name).Nodup)
include names

theorem declaration?_of_mem {p : Parameter α} (mem : p ∈ declared) :
    declaration? declared (.text p.name) = some p := by
  have equal (q : Parameter α) : Value.eq (.text p.name : Value α) (.text q.name) = true ↔ p.name = q.name := by
    simp [Value.eq]
  cases found : declaration? declared (.text p.name) with
  | none =>
    have absent := List.find?_eq_none.1 found p (List.mem_reverse.2 mem)
    exact absurd ((equal p).2 rfl) absent
  | some q =>
    have there := mem_of_declaration? found
    have same := (equal q).1 (eq_of_declaration? found)
    rw [List.inj_on_of_nodup_map names there mem same.symm]

/-- With names that differ, the defaults override nothing. -/
theorem defaults_eq_override : defaults declared = override declared [] (given declared) := by
  have fold (rest : List (Parameter α)) (sub : ∀ p ∈ rest, p ∈ declared) (b : Bindings α) :
      (rest.foldlM (fun b p => do
        if p.default.isNull then return b
        return Fields.insert b (.text p.name) (← p.coerce p.default)) b : Except Fault (Bindings α)) =
      override declared b ((rest.filter fun p => !p.default.isNull).map fun p => (.text p.name, p.default)) := by
    induction rest generalizing b with
    | nil => rfl
    | cons p rest ih =>
      obtain ⟨own, others⟩ := List.forall_mem_cons.1 sub
      rw [List.foldlM_cons]
      cases null : p.default.isNull with
      | true =>
        rw [List.filter_cons_of_neg (by rw [null]; exact Bool.false_ne_true), ← ih others b]
        rfl
      | false =>
        rw [List.filter_cons_of_pos (by rw [null]; rfl), List.map_cons, override_cons, check,
          declaration?_of_mem names own]
        dsimp only
        cases p.coerce p.default with
        | error f => rfl
        | ok w => exact ih others _
  exact fold declared (fun p mem => mem) []

/-- The names of the defaults differ. -/
theorem distinct_given : Fields.Distinct (given declared) := by
  have keys : (given declared).map Prod.fst =
      ((declared.filter fun p => !p.default.isNull).map Parameter.name).map .text := by
    rw [given, List.map_map, List.map_map]
    rfl
  have sub := (List.filter_sublist (l := declared) (p := fun p => !p.default.isNull)).map Parameter.name
  rw [Fields.Distinct, keys, List.pairwise_map]
  refine (names.sublist sub).imp fun {s t} differ => ?_
  simpa [Value.eq] using Ne.symm differ

end

omit [Scalar α] in
theorem named_given : Named (given declared) := by
  intro q mem
  obtain ⟨p, -, rfl⟩ := List.mem_map.1 mem
  exact ⟨p.name, rfl⟩

omit [Scalar α] in
theorem mem_keys_given {k : Value α} : k ∈ (given declared).map Prod.fst ↔
    ∃ p ∈ declared, p.default ≠ .null ∧ k = .text p.name := by
  have set (v : Value α) : (!v.isNull) = true ↔ v ≠ .null := by cases v <;> simp [isNull]
  simp only [given, List.map_map, List.mem_map, List.mem_filter, Function.comp, set, eq_comm, and_assoc]

theorem defined_given (typed : ∀ p ∈ declared, p.WellTyped) : ∀ q ∈ given declared, q.2.Defined := by
  intro q mem
  obtain ⟨p, there, rfl⟩ := List.mem_map.1 mem
  exact (typed p (List.mem_filter.1 there).1).default

/-- Under declared names values fit, and no value is an undefined number. -/
def Sound (declared : List (Parameter α)) (q : Value α × Value α) : Prop :=
  q.2.Defined ∧ ∀ p ∈ declared, q.1 = .text p.name → p.Fits q.2

theorem check_of_undeclared {q : Value α × Value α} (undeclared : ∀ p ∈ declared, q.1 ≠ .text p.name) :
    check declared q.1 q.2 = .ok q.2 := by
  rw [check]
  split
  next d found =>
    exact absurd (eq_of_eq_text (eq_of_declaration? found)) (undeclared d (mem_of_declaration? found))
  next => rfl

theorem keys_of_passes {overrides passed : Fields α}
    (all : List.Forall₂ (Passes declared) overrides passed) :
    passed.map Prod.fst = overrides.map Prod.fst := by
  induction all with
  | nil => rfl
  | cons first _ ih => rw [List.map_cons, List.map_cons, first.1, ih]

/-- What overriding makes of bindings: their names stay in front, every override has its checked value, and
what else there is was there before. -/
structure Overridden (declared : List (Parameter α)) (b : Bindings α) (overrides : Fields α)
    (v : Bindings α) : Prop where
  distinct : Fields.Distinct v
  front : b.map Prod.fst <+: v.map Prod.fst
  entered : ∀ p ∈ overrides, ∃ q ∈ v, Passes declared p q
  origin : ∀ q ∈ v, q ∈ b ∨ ∃ p ∈ overrides, Passes declared p q

section

variable {b v : Bindings α} {overrides : Fields α}

theorem overridden_of_override (named : b.Named) (distinct : Fields.Distinct b)
    (distinct' : overrides.Distinct) (done : override declared b overrides = .ok v) :
    Overridden declared b overrides v := by
  obtain ⟨passed, all, rfl⟩ := override_eq_ok.1 done
  have apart : Fields.Distinct passed := by
    rw [Fields.Distinct, keys_of_passes all]
    exact distinct'
  have agree : ∀ q ∈ passed, Fields.Agrees b q.1 := fun q _ => Fields.agrees_of_named named q.1
  refine ⟨distinct.extend passed, Fields.keys_prefix_extend b passed, fun p mem => ?_, fun q mem => ?_⟩
  · obtain ⟨q, there, passes⟩ := exists_of_mem_left all mem
    exact ⟨q, Fields.mem_extend apart agree there, passes⟩
  · rcases Fields.mem_of_mem_extend apart agree mem with late | early
    · exact .inr (exists_of_mem_right all late)
    · exact .inl early

theorem Overridden.mem_keys (h : Overridden declared b overrides v) {k : Value α} :
    k ∈ v.map Prod.fst ↔ k ∈ b.map Prod.fst ∨ k ∈ overrides.map Prod.fst := by
  constructor
  · intro mem
    obtain ⟨q, there, rfl⟩ := List.mem_map.1 mem
    rcases h.origin q there with early | ⟨p, given, same, -⟩
    · exact .inl (List.mem_map_of_mem early)
    · exact .inr (same ▸ List.mem_map_of_mem given)
  · rintro (early | late)
    · exact h.front.subset early
    · obtain ⟨p, given, rfl⟩ := List.mem_map.1 late
      obtain ⟨q, there, same, -⟩ := h.entered p given
      exact same ▸ List.mem_map_of_mem there

end

theorem resolve_eq_ok (names : (declared.map Parameter.name).Nodup) {overrides v : Fields α} :
    resolve declared overrides = .ok v ↔ ∃ b, override declared [] (given declared) = .ok b ∧
      override declared b overrides = .ok v ∧ checkSizes v = .ok () ∧
      checkOrder (v.map Prod.fst) = .ok () := by
  rw [resolve, defaults_eq_override names, except_bind_eq_ok]
  refine exists_congr fun b => and_congr_right fun _ => ?_
  rw [except_bind_eq_ok]
  constructor
  · rintro ⟨w, done, rest⟩
    obtain ⟨_, sized, rest⟩ := except_bind_eq_ok.1 rest
    obtain ⟨_, ordered, rest⟩ := except_bind_eq_ok.1 rest
    obtain rfl := Except.ok.inj rest
    exact ⟨done, sized, ordered⟩
  · rintro ⟨done, sized, ordered⟩
    exact ⟨v, done, except_bind_eq_ok.2 ⟨(), sized, except_bind_eq_ok.2 ⟨(), ordered, rfl⟩⟩⟩

/-- Room sizes that pass are positive, and in order if both are given. -/
theorem of_checkSizes {v : Bindings α} (done : v.checkSizes = .ok ()) :
    (∀ name ∈ [minRoomSize, maxRoomSize], checkSize name (bound v name) = .ok ()) ∧
      ∀ m n, bound v minRoomSize = .num m → bound v maxRoomSize = .num n → n.lt m = false := by
  obtain ⟨_, low, done⟩ := except_bind_eq_ok.1 done
  obtain ⟨_, high, done⟩ := except_bind_eq_ok.1 done
  refine ⟨by simp [low, high], fun m n first second => ?_⟩
  rw [first, second] at done
  obtain ⟨above, compared, done⟩ := except_bind_eq_ok.1 done
  rw [compare_numbers .gt rfl rfl] at compared
  obtain rfl := Except.ok.inj compared
  cases above : n.lt m with
  | false => rfl
  | true =>
    rw [show Relation.gt.numbers m n = true from above] at done
    cases done

/-- Where a room size is found, it is not an undefined number. -/
theorem defined_bound {v : Bindings α} (sound : ∀ q ∈ v, Sound declared q) (name : String) :
    (bound v name).Defined := by
  unfold bound field
  cases found : Fields.named? v name with
  | none => exact fun n number => nomatch number
  | some w => exact (sound _ (Fields.text_mem_of_named? found)).1

variable [Rounding α]

theorem sound_of_passes (names : (declared.map Parameter.name).Nodup)
    (typed : ∀ p ∈ declared, p.WellTyped) {p q : Value α × Value α} (defined : p.2.Defined)
    (passes : Passes declared p q) : Sound declared q := by
  obtain ⟨same, checked⟩ := passes
  rw [check] at checked
  split at checked
  next d found =>
    have there := mem_of_declaration? found
    obtain ⟨fits, defined'⟩ := Parameter.fits_of_coerce (typed d there) defined checked
    refine ⟨defined', fun d' there' named => ?_⟩
    rw [← same, named, declaration?_of_mem names there'] at found
    exact Option.some.inj found ▸ fits
  next absent =>
    refine ⟨Except.ok.inj checked ▸ defined, fun d there named => ?_⟩
    rw [← same, named, declaration?_of_mem names there] at absent
    cases absent

/-- What is sound passes again as it is. -/
theorem passes_of_sound (typed : ∀ p ∈ declared, p.WellTyped) {q : Value α × Value α}
    (sound : Sound declared q) : Passes declared q q := by
  refine ⟨rfl, ?_⟩
  rw [check]
  split
  next d found =>
    have there := mem_of_declaration? found
    have named := eq_of_eq_text (eq_of_declaration? found)
    exact Parameter.coerce_of_fits (typed d there) sound.1 (sound.2 d there named)
  next => rfl

/-- Whatever is overridden by sound values is sound. -/
theorem Overridden.sound {b v : Bindings α} {overrides : Fields α} (h : Overridden declared b overrides v)
    (names : (declared.map Parameter.name).Nodup) (typed : ∀ p ∈ declared, p.WellTyped)
    (defined : ∀ p ∈ overrides, p.2.Defined) (before : ∀ q ∈ b, Sound declared q) :
    ∀ q ∈ v, Sound declared q := by
  intro q mem
  rcases h.origin q mem with early | ⟨p, given, passes⟩
  · exact before q early
  · exact sound_of_passes names typed (defined p given) passes

theorem positive_of_checkSize {name : String} {v : Value α} (defined : v.Defined)
    (done : checkSize name v = .ok ()) (set : v ≠ .null) :
    ∃ n, v = .num n ∧ (Number.whole 0).lt n = true := by
  obtain rfl | ⟨n, rfl⟩ := number_of_checkSize done
  · exact absurd rfl set
  refine ⟨n, rfl, ?_⟩
  have zero : (Number.whole 0 : Number α).Defined := trivial
  rw [checkSize] at done
  split at done
  next => cases done
  next above =>
    rw [Number.le_eq_not_lt (defined n rfl) zero] at above
    simpa using above

/-- Room sizes give a size range corners that are positive and in order. -/
theorem sizeRange_sound {v : Bindings α} {m n : Number α} {x y : α}
    (low : bound v minRoomSize = .num m) (high : bound v maxRoomSize = .num n) (hm : m.Defined)
    (hn : n.Defined) (positive : (Number.whole 0).lt m = true) (ordered : m.le n = true)
    (left : m.toScalar? = some x) (right : n.toScalar? = some y) (r : SizeRange α) :
    ∃ r', sizeRange v r = .ok r' ∧ r'.problems = [] := by
  refine ⟨⟨⟨x, x⟩, ⟨y, y⟩⟩, ?_, ?_⟩
  · have first : (Value.num m).toReal = .ok x := by
      show m.toScalar = _
      rw [Number.toScalar, left]
    have second : (Value.num n).toReal = .ok y := by
      show n.toScalar = _
      rw [Number.toScalar, right]
    unfold sizeRange
    dsimp only
    rw [low, high]
    dsimp only
    rw [first, second]
    rfl
  · have zero : (Number.whole 0 : Number α).Defined := trivial
    have above : m.le (.whole 0) = false := by
      rw [Number.le_eq_not_lt hm zero, positive]
      rfl
    have least := Number.toScalar_pos hm above left
    have order := Number.toScalar_le hm hn ordered left right
    have less : Scalar.lt y x = false := by
      have hx := Number.defined_of_toScalar hm left
      have hy := Number.defined_of_toScalar hn right
      rw [Bool.eq_false_iff, ne_eq, Ordered.lt_iff hy hx, not_not]
      exact order
    simp [SizeRange.problems, least, less]

/-- What bindings are that overrides come to. -/
structure Resolved (declared : List (Parameter α)) (overrides : Fields α) (v : Bindings α) : Prop where
  distinct : Fields.Distinct v
  /-- The names are those of the overrides and of the parameters with a default. -/
  names (k : Value α) : k ∈ v.map Prod.fst ↔
    k ∈ overrides.map Prod.fst ∨ ∃ p ∈ declared, p.default ≠ .null ∧ k = .text p.name
  fits : ∀ p ∈ declared, ∀ w, (.text p.name, w) ∈ v → p.Fits w
  unchanged : ∀ q ∈ overrides, (∀ p ∈ declared, q.1 ≠ .text p.name) → q ∈ v
  positive : ∀ name ∈ [minRoomSize, maxRoomSize], bound v name ≠ .null →
    ∃ n, bound v name = .num n ∧ (Number.whole 0).lt n = true
  ordered (m n : Number α) : bound v minRoomSize = .num m → bound v maxRoomSize = .num n →
    m.le n = true
  /-- Two room sizes that the arithmetic has numbers for make every size range a proper one. -/
  sizes {m n : Number α} {x y : α} : bound v minRoomSize = .num m → bound v maxRoomSize = .num n →
    m.toScalar? = some x → n.toScalar? = some y →
    ∀ r : SizeRange α, ∃ r', sizeRange v r = .ok r' ∧ r'.problems = []
  again : resolve declared v = .ok v

/-- Values that resolving gives fit their declarations, have proper room sizes and resolve to themselves. -/
theorem resolve_sound {overrides v : Fields α} (names : (declared.map Parameter.name).Nodup)
    (typed : ∀ p ∈ declared, p.WellTyped) (distinct : overrides.Distinct)
    (defined : ∀ p ∈ overrides, p.2.Defined) (done : resolve declared overrides = .ok v) :
    Resolved declared overrides v := by
  obtain ⟨b, first, second, sized, sorted⟩ := (resolve_eq_ok names).1 done
  -- Defaults override nothing, and overrides override the defaults.
  have nothing : Named ([] : Bindings α) := fun p mem => nomatch mem
  have start := overridden_of_override nothing .nil (distinct_given names) first
  have named : b.Named := by
    intro q mem
    obtain ⟨p, there, same, -⟩ := (start.origin q mem).resolve_left (fun none => nomatch none)
    rw [same]
    exact named_given p there
  have last := overridden_of_override named start.distinct distinct second
  have sound := last.sound names typed defined
    (start.sound names typed (defined_given typed) fun q mem => nomatch mem)
  obtain ⟨checked, above⟩ := of_checkSizes sized
  have positive (name : String) (mem : name ∈ [minRoomSize, maxRoomSize]) :=
    positive_of_checkSize (defined_bound sound name) (checked name mem)
  have ordered (m n : Number α) (low : bound v minRoomSize = .num m)
      (high : bound v maxRoomSize = .num n) : m.le n = true :=
    Number.le_of_not_lt (defined_bound sound _ m low) (defined_bound sound _ n high) (above m n low high)
  exact {
    distinct := last.distinct
    names := fun k => by
      rw [last.mem_keys, start.mem_keys, mem_keys_given, or_comm]
      simp
    fits := fun p mem w there => (sound _ there).2 p mem rfl
    unchanged := fun q mem undeclared => by
      obtain ⟨q', there, same, checked⟩ := last.entered q mem
      rw [check_of_undeclared undeclared] at checked
      rwa [Prod.ext same (Except.ok.inj checked).symm] at there
    positive
    ordered
    sizes := fun {m n x y} low high left right r => by
      obtain ⟨m', low', above⟩ := positive minRoomSize (by simp) (by rw [low]; exact fun null => nomatch null)
      obtain rfl : m = m' := Value.num.inj (low.symm.trans low')
      exact sizeRange_sound low high (defined_bound sound _ m low) (defined_bound sound _ n high) above
        (ordered m n low high) left right r
    again := by
      have passes := List.forall₂_same.2 fun q mem => passes_of_sound typed (sound q mem)
      have whole : Fields.Distinct ([] ++ v) := last.distinct
      have same := Fields.extend_of_prefix named last.front whole
      exact (resolve_eq_ok names).2 ⟨b, first, override_eq_ok.2 ⟨v, passes, same.symm⟩, sized, sorted⟩ }

end Bindings

namespace Descent

/-- Declarations of every type; a bound of the depth is a double, its default an integer. -/
def declared : List (Parameter Float) :=
  [{ name := "depth", default := .int 9, low := .int 1, high := .real 5.5 },
    { name := "hard", type := .boolean, default := .bool false },
    { name := "biome", type := .select, options := [.text "cave", .text "crypt"] },
    { name := "title", type := .string, default := .int 7 },
    { name := minRoomSize, low := .real 2.5, high := .int 8 }]

def overrides : Fields Float :=
  .ofTexts [("biome", .text "crypt"), (minRoomSize, .int 1), ("torches", .list [.int 1, .int 2]),
    (maxRoomSize, .int 6)]

theorem typed : ∀ p ∈ declared, p.WellTyped := by
  have real (x : Float) (defined : Scalar.isUndefined x = false) : Parameter.Bounding (.real x) :=
    .inr ⟨.real x, rfl, defined⟩
  have whole (n : Int) : Parameter.Bounding (.int n : Value Float) := .inr ⟨.whole n, rfl, trivial⟩
  have plain (n : Int) : (.int n : Value Float).Defined := by rintro _ ⟨⟩; trivial
  have other {v : Value Float} (none : v.strictNumber? = none) : v.Defined := by
    rintro n rfl
    cases none
  rintro p (_ | ⟨_, _ | ⟨_, _ | ⟨_, _ | ⟨_, _ | ⟨_, none⟩⟩⟩⟩⟩)
  · refine ⟨fun _ => whole 1, fun _ => real 5.5 (by decide +kernel), ?_, plain 9⟩
    rintro _ _ _ ⟨⟩ ⟨⟩
    decide +kernel
  · exact ⟨nofun, nofun, nofun, other rfl⟩
  · exact ⟨nofun, nofun, nofun, other rfl⟩
  · exact ⟨nofun, nofun, nofun, plain 7⟩
  · refine ⟨fun _ => real 2.5 (by decide +kernel), fun _ => whole 8, ?_, other rfl⟩
    rintro _ _ _ ⟨⟩ ⟨⟩
    decide +kernel
  · cases none

/-- The lower room size is bound to nothing, and the upper one is below the least size of a room. -/
def unset : Fields Float := .ofTexts [(minRoomSize, .null), (maxRoomSize, .int 4)]

end Descent

namespace Bindings

/-- Numbers are clamped and the room sizes are brought in order. -/
theorem resolve_sound_descent :
    (Descent.declared.map Parameter.name).Nodup ∧ (∀ p ∈ Descent.declared, p.WellTyped) ∧
      Descent.overrides.Distinct ∧ (∀ p ∈ Descent.overrides, p.2.Defined) ∧
      ∃ v, resolve Descent.declared Descent.overrides = .ok v ∧
        v.map (fun p => (p.1.text?, p.2.quoted)) =
          [(some "depth", "5.5"), (some "hard", "False"), (some "title", "'7'"), (some "biome", "'crypt'"),
            (some "minRoomSize", "2.5"), (some "torches", "[1, 2]"), (some "maxRoomSize", "6")] ∧
        Resolved Descent.declared Descent.overrides v := by
  have names : (Descent.declared.map Parameter.name).Nodup := by decide
  have distinct : Descent.overrides.Distinct := by
    simp [Fields.Distinct, Descent.overrides, Fields.ofTexts, Value.eq, minRoomSize, maxRoomSize]
  have defined : ∀ p ∈ Descent.overrides, p.2.Defined := by
    simp [Descent.overrides, Fields.ofTexts, Value.Defined, Value.int, Number.Defined]
  have facts : (resolve Descent.declared Descent.overrides).toOption.map (fun v =>
      v.map fun p => (p.1.text?, p.2.quoted)) =
      some [(some "depth", "5.5"), (some "hard", "False"), (some "title", "'7'"), (some "biome", "'crypt'"),
        (some "minRoomSize", "2.5"), (some "torches", "[1, 2]"), (some "maxRoomSize", "6")] := by
    decide +kernel
  obtain ⟨v, done, read⟩ := except_toOption_map_eq_some.1 facts
  exact ⟨names, Descent.typed, distinct, defined, v, done, read,
    resolve_sound names Descent.typed distinct defined done⟩

/-- A room size may be bound to nothing. It is not positive then, and the other room size alone can make
the size range of a room improper. -/
theorem resolve_unset :
    Descent.unset.Distinct ∧ (∀ p ∈ Descent.unset, p.2.Defined) ∧
      resolve [] Descent.unset = .ok Descent.unset ∧
      (∀ name ∈ [minRoomSize, maxRoomSize], .text name ∈ Descent.unset.map Prod.fst) ∧
      (¬ ∃ n : Number Float, (.text minRoomSize, .num n) ∈ Descent.unset ∧
        (Number.whole 0).lt n = true) ∧
      ∃ r, sizeRange Descent.unset .ofRoom = .ok r ∧ r.problems ≠ [] := by
  have improper : (sizeRange Descent.unset .ofRoom).toOption.map SizeRange.problems =
      some ["size range min exceeds max"] := by
    decide +kernel
  obtain ⟨r, given, problems⟩ := except_toOption_map_eq_some.1 improper
  refine ⟨?_, ?_, rfl, ?_, ?_, r, given, by simp [problems]⟩
  · simp [Fields.Distinct, Descent.unset, Fields.ofTexts, Value.eq, minRoomSize, maxRoomSize]
  · simp [Descent.unset, Fields.ofTexts, Value.Defined, Value.int, Number.Defined]
  · simp [Descent.unset, Fields.ofTexts]
  · simp [Descent.unset, Fields.ofTexts, minRoomSize, maxRoomSize]

end Bindings

end Dungeon
