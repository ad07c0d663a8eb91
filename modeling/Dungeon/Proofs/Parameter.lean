import Dungeon.Parameter
import Dungeon.Proofs.Failing

/-!
# When parameters resolve

Values are checked against their declarations, but declarations are not checked: the bounds of a
number may be anything. Resolving gives bindings or fails with a fault of the parameters, unless a
bound is something that numbers cannot be compared with, or a value that the fault would quote cannot
be written.
-/

namespace Dungeon

variable {α : Type} [Scalar α]

open Value

/-- Values that count as numbers have an order. -/
theorem compare_numbers (r : Relation) {v w : Value α} {m n : Number α}
    (left : v.number? = some m) (right : w.number? = some n) :
    Value.compare r v w = .ok (r.numbers m n) := by
  have ordered : related r v w = .ok (r.numbers m n) := by
    cases v <;> cases w <;> simp_all [related, number?]
  rw [Value.compare, ordered]
  rfl

theorem failsOnly_compare (r : Relation) (v w : Value α) :
    FailsOnly (fun f => f.kind = .type) (Value.compare r v w) := by
  intro f failed
  unfold Value.compare at failed
  cases ordered : related r v w with
  | ok b =>
    rw [ordered] at failed
    cases failed
  | error u =>
    rw [ordered] at failed
    cases failed
    rfl

/-- Nothing else is in an order with them. -/
theorem compare_unfit (r : Relation) {v w : Value α} {m : Number α}
    (left : v.number? = some m) (right : w.number? = none) :
    Value.compare r v w = .error (.unordered r.symbol v.typeName w.typeName) := by
  have unordered : related r v w = .error ⟨r, v.typeName, w.typeName⟩ := by
    cases v <;> cases w <;> simp_all [related, number?]
  rw [Value.compare, unordered]
  rfl

/-- Among these values is one that cannot be written, and the fault says so. -/
def Fault.Unsaid (vs : List (Value α)) (f : Fault) : Prop :=
  f = .unwritable ∧ ∃ v ∈ vs, v.writable = false

namespace Parameter

/-- A bound that is given, and that numbers cannot be compared with. -/
def Incomparable (bound : Value α) : Prop := bound ≠ .null ∧ bound.number? = none

/-- A number with a bound that does not fit it. -/
def Unfit (p : Parameter α) : Prop :=
  p.type = .number ∧ (Incomparable p.low ∨ Incomparable p.high)

/-- Is a value on the far side of a bound, if the bound is given? -/
def beyond (r : Relation) (v bound : Value α) : Except Fault Bool :=
  if bound.isNull then .ok false else Value.compare r v bound

theorem clamp_eq (p : Parameter α) (v : Value α) :
    p.clamp v = do
      let below ← beyond .lt v p.low
      let above ← beyond .gt (if below then p.low else v) p.high
      return if above then p.high else if below then p.low else v := by
  unfold clamp beyond
  cases p.low.isNull <;> cases p.high.isNull <;> rfl

section
variable {r : Relation} {v bound : Value α} {m : Number α} (number : v.number? = some m)
include number

theorem failsOnly_beyond :
    FailsOnly (fun f => f.kind = .type ∧ Incomparable bound) (beyond r v bound) := by
  intro f failed
  unfold beyond at failed
  cases counted : bound.number? with
  | some n =>
    rw [compare_numbers r number counted] at failed
    split at failed
    · cases failed
    · cases failed
  | none =>
    refine ⟨?_, ?_, counted⟩
    · split at failed
      · cases failed
      · exact failsOnly_compare r v bound f failed
    · rintro rfl
      cases failed

/-- What a number is beyond is a number. -/
theorem number_of_beyond (far : beyond r v bound = .ok true) : ∃ n, bound.number? = some n := by
  cases counted : bound.number? with
  | some n => exact ⟨n, rfl⟩
  | none =>
    unfold beyond at far
    rw [compare_unfit r number counted] at far
    split at far
    · cases far
    · cases far

end

theorem failsOnly_clamp (p : Parameter α) (n : Number α) :
    FailsOnly (fun f => f.kind = .type ∧ (Incomparable p.low ∨ Incomparable p.high))
      (p.clamp (.num n)) := by
  have number : (Value.num n).number? = some n := rfl
  rw [clamp_eq]
  refine FailsOnly.bind ?_ fun below found => FailsOnly.bind ?_ fun above _ => .ok _
  · exact (failsOnly_beyond number).mono fun f ⟨kind, unfit⟩ => ⟨kind, .inl unfit⟩
  have raised : ∃ m, (if below then p.low else .num n).number? = some m := by
    cases below with
    | false => exact ⟨n, number⟩
    | true => exact number_of_beyond number found
  obtain ⟨m, number⟩ := raised
  exact (failsOnly_beyond number).mono fun f ⟨kind, unfit⟩ => ⟨kind, .inr unfit⟩

/-- A value that does not fit the declaration is a fault of the parameters. -/
theorem failsOnly_coerce (p : Parameter α) (v : Value α) :
    FailsOnly (fun f => f.kind = .parameter ∨ f.kind = .type ∧ p.Unfit ∨ f.Unsaid (v :: p.options))
      (p.coerce v) := by
  have quoted {f : Fault} (kind : f.kind = .parameter) {vs : List (Value α)}
      (among : vs ⊆ v :: p.options) : FailsOnly
        (fun f => f.kind = .parameter ∨ f.kind = .type ∧ p.Unfit ∨ f.Unsaid (v :: p.options))
        (.error (.quoting vs f) : Except Fault (Value α)) :=
    .quoting (.inl kind) fun ⟨w, mem, unwritable⟩ => .inr (.inr ⟨rfl, w, among mem, unwritable⟩)
  have own : [v] ⊆ v :: p.options := by simp
  unfold coerce
  cases type : p.type with
  | number =>
    dsimp only
    split
    next n =>
      exact (p.failsOnly_clamp n).mono fun f ⟨kind, unfit⟩ => .inr (.inl ⟨kind, type, unfit⟩)
    next => exact quoted rfl own
  | boolean =>
    dsimp only
    split
    · exact .ok _
    · exact quoted rfl own
  | select => exact .ite (.ok v) (quoted rfl (List.Subset.refl _))
  | string =>
    refine .map _ (.writing fun ⟨w, mem, unwritable⟩ => .inr (.inr ⟨rfl, w, own mem, unwritable⟩))

/-- The values of a declaration. -/
def values (p : Parameter α) : List (Value α) := p.default :: p.low :: p.high :: p.options

end Parameter

namespace Bindings

/-- All values that are declared or given. -/
def written (declared : List (Parameter α)) (overrides : Fields α) : List (Value α) :=
  declared.flatMap Parameter.values ++ overrides.map Prod.snd

/-- A fault of the parameters, a comparison with a bound that does not fit, or a value that cannot be
written. -/
def Objection (declared : List (Parameter α)) (overrides : Fields α) (f : Fault) : Prop :=
  f.kind = .parameter ∨ (f.kind = .type ∧ ∃ p ∈ declared, p.Unfit) ∨ f.Unsaid (written declared overrides)

section

variable {declared : List (Parameter α)} {overrides : Fields α} {p : Parameter α}

omit [Scalar α] in
theorem values_subset_written (mem : p ∈ declared) : p.values ⊆ written declared overrides :=
  fun _ there => List.mem_append_left _ (List.mem_flatMap.2 ⟨p, mem, there⟩)

omit [Scalar α] in
theorem default_mem_written (mem : p ∈ declared) : p.default ∈ written declared overrides :=
  values_subset_written mem List.mem_cons_self

omit [Scalar α] in
theorem override_mem_written {q : Value α × Value α} (mem : q ∈ overrides) :
    q.2 ∈ written declared overrides :=
  List.mem_append_right _ (List.mem_map_of_mem mem)

theorem failsOnly_coerce (mem : p ∈ declared) {v : Value α}
    (there : v ∈ written declared overrides) :
    FailsOnly (Objection declared overrides) (p.coerce v) := by
  refine (p.failsOnly_coerce v).mono fun f failed => failed.imp_right (Or.imp ?_ ?_)
  · exact fun ⟨kind, unfit⟩ => ⟨kind, p, mem, unfit⟩
  · rintro ⟨rfl, w, among, unwritable⟩
    refine ⟨rfl, w, ?_, unwritable⟩
    obtain rfl | among := List.mem_cons.1 among
    · exact there
    · exact values_subset_written mem (by simp [Parameter.values, among])

end

theorem failsOnly_defaults (declared : List (Parameter α)) (overrides : Fields α) :
    FailsOnly (Objection declared overrides) (defaults declared) := by
  refine .foldlM (fun p mem b => .ite (.ok b) ?_) []
  exact (failsOnly_coerce mem (default_mem_written mem)).bind fun v _ => .ok _

theorem mem_of_declaration? {declared : List (Parameter α)} {name : Value α} {p : Parameter α}
    (found : declaration? declared name = some p) : p ∈ declared :=
  List.mem_reverse.1 (List.mem_of_find?_eq_some found)

theorem failsOnly_override (declared : List (Parameter α)) (b : Bindings α)
    (overrides : Fields α) :
    FailsOnly (Objection declared overrides) (override declared b overrides) := by
  refine .foldlM (fun (name, v) mem b => ?_) b
  dsimp only
  split
  next p found =>
    have there : v ∈ written declared overrides := override_mem_written mem
    exact (failsOnly_coerce (mem_of_declaration? found) there).bind fun w _ => .ok _
  next => exact .ok _

/-- A room size that passes its check is not set or a number. -/
theorem number_of_checkSize {name : String} {v : Value α} (done : checkSize name v = .ok ()) :
    v = .null ∨ ∃ n, v = .num n := by
  unfold checkSize at done
  split at done
  · exact .inl rfl
  · exact .inr ⟨_, rfl⟩
  · cases done

theorem failsOnly_checkSize (name : String) (v : Value α) :
    FailsOnly (fun f => f.kind = .parameter ∨ f.Unsaid [v]) (checkSize name v) := by
  have refused {w : Value α} {words : Fault} (kind : words.kind = .parameter) :
      FailsOnly (fun f => f.kind = .parameter ∨ f.Unsaid [w])
        (.error (.quoting [w] words) : Except Fault Unit) :=
    .quoting (.inl kind) fun unwritable => .inr ⟨rfl, unwritable⟩
  unfold checkSize
  split
  · exact .ok ()
  · exact .ite (refused rfl) (.ok ())
  · exact refused rfl

omit [Scalar α] in
/-- A bound that cannot be written is one of the values. -/
theorem mem_of_bound {b : Bindings α} {name : String} (unwritable : (bound b name).writable = false) :
    ∃ q ∈ b, q.2 = bound b name := by
  unfold bound field at *
  cases found : Fields.named? b name with
  | none =>
    rw [found] at unwritable
    cases unwritable
  | some v => exact ⟨_, Fields.text_mem_of_named? found, rfl⟩

theorem failsOnly_checkSizes (b : Bindings α) :
    FailsOnly (fun f => f.kind = .parameter ∨ f.Unsaid (b.map Prod.snd)) b.checkSizes := by
  have unsaid (names : List String) {f : Fault} (h : f.Unsaid (names.map (bound b))) :
      f.Unsaid (b.map Prod.snd) := by
    obtain ⟨rfl, v, mem, unwritable⟩ := h
    obtain ⟨name, _, rfl⟩ := List.mem_map.1 mem
    obtain ⟨q, there, same⟩ := mem_of_bound unwritable
    exact ⟨rfl, _, List.mem_map.2 ⟨q, there, same⟩, unwritable⟩
  have checked (name : String) : FailsOnly
      (fun f => f.kind = .parameter ∨ f.Unsaid (b.map Prod.snd)) (checkSize name (bound b name)) :=
    (failsOnly_checkSize _ _).mono fun _ => .imp_right (unsaid [name])
  unfold checkSizes
  refine (checked _).bind fun _ lowOk => ?_
  refine (checked _).bind fun _ highOk => ?_
  obtain low | ⟨m, low⟩ := number_of_checkSize lowOk
  · rw [low]
    exact .ok ()
  obtain high | ⟨n, high⟩ := number_of_checkSize highOk
  · rw [low, high]
    exact .ok ()
  · rw [low, high]
    refine FailsOnly.bind ?_ fun above _ => .ite (.quoting (.inl rfl) fun unwritable => ?_) (.ok ())
    · rw [compare_numbers .gt (m := m) (n := n) rfl rfl]
      exact .ok _
    · exact .inr (unsaid [minRoomSize, maxRoomSize] ⟨rfl, by simpa [low, high] using unwritable⟩)

/-- All names are texts. -/
def Named (b : Bindings α) : Prop := ∀ p ∈ b, ∃ name, p.1 = .text name

theorem Named.insert {b : Bindings α} (named : b.Named) (name : String) (v : Value α) :
    Named (Fields.insert b (.text name) v) := by
  induction b with
  | nil =>
    intro p mem
    obtain rfl := List.mem_singleton.1 mem
    exact ⟨name, rfl⟩
  | cons q rest ih =>
    obtain ⟨own, others⟩ := List.forall_mem_cons.1 named
    rw [Fields.insert]
    split
    · exact List.forall_mem_cons.2 ⟨own, others⟩
    · exact List.forall_mem_cons.2 ⟨own, ih others⟩

/-- Texts are in order. -/
theorem checkOrder_texts (names : List String) :
    checkOrder (names.map .text : List (Value α)) = .ok () := by
  induction names with
  | nil => rfl
  | cons first rest ih =>
    cases rest with
    | nil => rfl
    | cons second rest => exact ih

theorem Named.checkOrder {b : Bindings α} (named : b.Named) :
    Value.checkOrder (b.map Prod.fst) = .ok () := by
  have texts : ∃ names : List String, b.map Prod.fst = names.map .text := by
    induction b with
    | nil => exact ⟨[], rfl⟩
    | cons p rest ih =>
      obtain ⟨⟨name, own⟩, others⟩ := List.forall_mem_cons.1 named
      obtain ⟨names, same⟩ := ih others
      exact ⟨name :: names, by rw [List.map_cons, own, same, List.map_cons]⟩
  obtain ⟨names, same⟩ := texts
  rw [same]
  exact checkOrder_texts names

/-- Each value is one of these or a text. -/
def Sourced (vs : List (Value α)) (b : Bindings α) : Prop :=
  ∀ q ∈ b, q.2 ∈ vs ∨ ∃ s, q.2 = .text s

theorem Sourced.insert {vs : List (Value α)} {b : Bindings α} (sourced : Sourced vs b)
    (key : Value α) {v : Value α} (own : v ∈ vs ∨ ∃ s, v = .text s) :
    Sourced vs (Fields.insert b key v) := by
  induction b with
  | nil => exact List.forall_mem_singleton.2 own
  | cons q rest ih =>
    obtain ⟨first, others⟩ := List.forall_mem_cons.1 sourced
    rw [Fields.insert]
    split
    · exact List.forall_mem_cons.2 ⟨own, others⟩
    · exact List.forall_mem_cons.2 ⟨first, ih others⟩

end Bindings

end Dungeon
