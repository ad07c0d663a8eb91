import Dungeon.Graph.Reader
import Mathlib.Data.List.Infix

/-!
# Texts with the mark of unknown types

Reports on bad nodes are told apart by a mark inside of a text. The mark begins with a capital letter
that fixed words, numbers, moments and lower case do not have, and quoting neither makes nor breaks it.
-/

namespace Dungeon

open Value

/-- The letters of the mark. -/
abbrev mark : List Char := Graph.unknownTypeMark.toList

/-- The mark of unknown types stands in the text. -/
def Marked (text : String) : Prop := mark <:+: text.toList

/-- The text does not have the letter that the mark begins with. -/
def Unmarked (text : String) : Prop := 'U' ∉ text.toList

instance (text : String) : Decidable (Unmarked text) := inferInstanceAs (Decidable (_ ∉ _))

theorem occursIn_iff {part text : List Char} : occursIn part text = true ↔ part <:+: text := by
  induction text with
  | nil => simp [occursIn]
  | cons c rest ih => simp [occursIn, List.infix_cons_iff, ih]

/-! Where the mark stands in a text that is put together -/

theorem mark_infix_append {xs ys : List Char} (plain : 'U' ∉ xs) :
    mark <:+: xs ++ ys ↔ mark <:+: ys := by
  rw [List.infix_append_iff]
  constructor
  · rintro (before | after | ⟨front, back, same, ends, begins⟩)
    · exact absurd (before.subset (by decide)) plain
    · exact after
    · cases front with
      | nil =>
        rw [same]
        exact begins.isInfix
      | cons c front =>
        obtain ⟨rfl, -⟩ := List.cons.inj same
        exact absurd (ends.subset List.mem_cons_self) plain
  · exact fun after => .inr (.inl after)

/-- The text does not begin with an end of the mark, so the mark does not run over into it. -/
def Detached (cs : List Char) : Prop := ∀ back ∈ mark.tails, back <+: cs → back = []

instance (cs : List Char) : Decidable (Detached cs) := inferInstanceAs (Decidable (∀ _ ∈ _, _))

theorem detached_cons {c : Char} {cs : List Char} (foreign : c ∉ mark) : Detached (c :: cs) := by
  intro back ends begins
  cases back with
  | nil => rfl
  | cons d back =>
    obtain ⟨rfl, -⟩ := List.cons_prefix_cons.1 begins
    exact absurd (((List.mem_tails _ _).1 ends).subset List.mem_cons_self) foreign

theorem detached_append {sign text : String} {c : Char} (first : sign.toList.head? = some c)
    (foreign : c ∉ mark) : Detached (sign ++ text).toList := by
  obtain ⟨rest, same⟩ := List.head?_eq_some_iff.1 first
  rw [String.toList_append, same]
  exact detached_cons foreign

theorem mark_parted {xs ys : List Char} (detached : Detached ys) :
    mark <:+: xs ++ ys ↔ mark <:+: xs ∨ mark <:+: ys := by
  rw [List.infix_append_iff]
  constructor
  · rintro (before | after | ⟨front, back, same, ends, begins⟩)
    · exact .inl before
    · exact .inr after
    · obtain rfl := detached back ((List.mem_tails _ _).2 ⟨front, same.symm⟩) begins
      rw [same, List.append_nil]
      exact .inl ends.isInfix
  · exact fun inside => inside.imp_right .inl

theorem Marked.mono {s t : String} (marked : Marked s) (inside : s.toList <:+: t.toList) :
    Marked t :=
  List.IsInfix.trans marked inside

theorem Unmarked.not_marked {text : String} (words : Unmarked text) : ¬Marked text :=
  fun marked => words (marked.subset (by decide))

@[simp]
theorem unmarked_append {s t : String} : Unmarked (s ++ t) ↔ Unmarked s ∧ Unmarked t := by
  simp [Unmarked]

/-- Behind words without the first letter of the mark, the mark stands in what follows. -/
theorem marked_append {s t : String} (words : Unmarked s) : Marked (s ++ t) ↔ Marked t := by
  unfold Marked
  rw [String.toList_append, mark_infix_append words]

theorem Marked.parted {s t : String} (marked : Marked (s ++ t)) (detached : Detached t.toList) :
    Marked s ∨ Marked t := by
  unfold Marked at *
  rwa [String.toList_append, mark_parted detached] at marked

/-- Words that close a text do not add to the mark. -/
theorem Marked.of_append {s t : String} (marked : Marked (s ++ t)) (detached : Detached t.toList)
    (words : Unmarked t) : Marked s :=
  (marked.parted detached).resolve_right words.not_marked

theorem joined_cons_cons {separator p q : String} {rest : List String} :
    joined separator (p :: q :: rest) = p ++ (separator ++ joined separator (q :: rest)) := by
  apply String.toList_inj.1
  simp [joined, String.toList_intercalate]

theorem unmarked_joined {parts : List String} (plain : ∀ p ∈ parts, Unmarked p) :
    Unmarked (joined ", " parts) := by
  induction parts with
  | nil => decide
  | cons p rest ih =>
    have later := ih fun r mem => plain r (List.mem_cons_of_mem p mem)
    cases rest with
    | nil => exact plain p List.mem_cons_self
    | cons q rest =>
      have comma : Unmarked ", " := by decide
      rw [joined_cons_cons, unmarked_append, unmarked_append]
      exact ⟨plain p List.mem_cons_self, comma, later⟩

/-- The mark stands inside one of the parts of a row. -/
theorem Marked.of_joined {parts : List String} (marked : Marked (joined ", " parts)) :
    ∃ p ∈ parts, Marked p := by
  induction parts with
  | nil => exact absurd marked (by decide : Unmarked "").not_marked
  | cons p rest ih =>
    cases rest with
    | nil => exact ⟨p, List.mem_cons_self, marked⟩
    | cons q rest =>
      have comma : Unmarked ", " := by decide
      rw [joined_cons_cons] at marked
      obtain here | later := marked.parted (detached_append rfl (by decide))
      · exact ⟨p, List.mem_cons_self, here⟩
      · obtain ⟨r, mem, holds⟩ := ih ((marked_append comma).1 later)
        exact ⟨r, List.mem_cons_of_mem p mem, holds⟩

/-! Numbers -/

theorem not_mem_digits (n : Nat) : 'U' ∉ Nat.toDigits 10 n := by
  intro member
  cases Nat.isDigit_of_mem_toDigits (by decide) (by decide) member

@[simp]
theorem unmarked_repr (n : Nat) : Unmarked n.repr := by
  simpa [Unmarked] using not_mem_digits n

@[simp]
theorem unmarked_int (n : Int) : Unmarked n.repr := by
  cases n with
  | ofNat n => exact unmarked_repr n
  | negSucc n =>
    have sign : Unmarked "-" := by decide
    exact unmarked_append.2 ⟨sign, unmarked_repr (n + 1)⟩

@[simp]
theorem unmarked_ofList {cs : List Char} : Unmarked (String.ofList cs) ↔ 'U' ∉ cs := by
  simp [Unmarked]

@[simp]
theorem unmarked_padded (width n : Nat) : Unmarked (padded width n) := by
  simpa [padded] using not_mem_digits n

namespace Decimal

theorem not_mem_digitText (n : Nat) : 'U' ∉ digitText n := by
  simpa [digitText] using not_mem_digits n

theorem not_mem_exponentText (e : Int) : 'U' ∉ exponentText e := by
  simp only [exponentText]
  split <;> split <;> simp [not_mem_digitText]

theorem not_mem_unsigned (layout : Numeral) (d : Digits) : 'U' ∉ layout.unsigned d := by
  have plain := not_mem_digitText d.digits
  have exponent := not_mem_exponentText
  unfold Numeral.unsigned
  extract_lets ds top width
  change 'U' ∉ ds at plain
  split
  · split <;> decide
  split
  · split
    · simp [plain]
    split
    · split <;> simp [plain]
    · have front : 'U' ∉ ds.take width := fun member => plain (List.mem_of_mem_take member)
      have back : 'U' ∉ ds.drop width := fun member => plain (List.mem_of_mem_drop member)
      simp [front, back]
  · clear_value ds
    split <;> simp_all

theorem unmarked_plainText (x : Float) : Unmarked (plainText x) := by
  have signed (negative : Bool) {cs : List Char} (plain : 'U' ∉ cs) :
      Unmarked (signText negative cs) := by
    cases negative <;> simp [signText, plain, -String.ofList_cons]
  unfold plainText
  split
  · decide
  · exact signed _ (by decide)
  · exact signed _ (not_mem_unsigned _ _)
  · exact signed _ (not_mem_unsigned _ _)

end Decimal

theorem unmarked_number (n : Number Float) : Unmarked n.text := by
  cases n with
  | whole n => exact unmarked_int n
  | real x => exact Decimal.unmarked_plainText x

/-! Moments -/

namespace Moment

theorem unmarked_zoneText (n : Int) : Unmarked (Clock.zoneText n) := by
  have empty : Unmarked "" := by decide
  have comma : Unmarked ", " := by decide
  have days : Unmarked "days=" := by decide
  have seconds : Unmarked "seconds=" := by decide
  have first : Unmarked "datetime.timedelta(" := by decide
  have last : Unmarked ")" := by decide
  have span : Unmarked (Clock.spanText n) := by
    unfold Clock.spanText
    extract_lets whole rest
    clear_value whole rest
    simp [apply_ite Unmarked, empty, comma, days, seconds, first, last]
  have zone : Unmarked "datetime.timezone(" := by decide
  have common : Unmarked "datetime.timezone.utc" := by decide
  simp [Clock.zoneText, apply_ite Unmarked, zone, common, span, last]

theorem unmarked_clock (c : Clock) : Unmarked c.text ∧ ∀ p ∈ c.parts, Unmarked p := by
  obtain ⟨hour, minute, second, micros, offset⟩ := c
  have ahead (n : Int) : Unmarked (Clock.offsetText n) := by
    simp +decide [Clock.offsetText, apply_ite Unmarked]
  constructor
  · cases offset <;> simp +decide [Clock.text, apply_ite Unmarked, ahead]
  · cases offset <;> simp +decide [Clock.parts, unmarked_zoneText, or_imp, forall_and]

theorem unmarked_typeName (m : Moment) : Unmarked m.typeName := by
  unfold typeName
  split <;> decide

theorem unmarked_quoted (m : Moment) : Unmarked m.quoted := by
  obtain ⟨d, c⟩ := m
  have parts : ∀ p ∈ [d.year, d.month, d.day].map toString ++ (c.map Clock.parts).getD [],
      Unmarked p := by
    cases c with
    | none => simp
    | some c => simpa [or_imp, forall_and] using (unmarked_clock c).2
  simp only [quoted, unmarked_append]
  exact ⟨⟨⟨unmarked_typeName _, by decide⟩, unmarked_joined parts⟩, by decide⟩

theorem unmarked_plain (m : Moment) : Unmarked m.plain := by
  obtain ⟨d, c⟩ := m
  cases c with
  | none => simp +decide [plain, written, Day.text]
  | some c => simp +decide [plain, written, Day.text, (unmarked_clock c).1]

end Moment

/-! Lower case -/

namespace Text

theorem ofNat_ne {n : Nat} {c : Char} (other : c.toNat ≠ n) (given : c ≠ Char.ofNat 0) :
    Char.ofNat n ≠ c := by
  rintro rfl
  by_cases valid : n.isValidChar
  · rw [Char.ofNat, dif_pos valid] at other
    exact other rfl
  · rw [Char.ofNat, dif_neg valid] at given
    exact given rfl

theorem lowerChar_ne (c : Char) : lowerChar c ≠ 'U' := by
  have small : ∀ n < 0x80, (Char.ofNat n).toLower ≠ 'U' := by decide
  have large : ∀ row ∈ lowered, 0x55 < (row.1 : Int) + row.2.2.2 := by decide +kernel
  unfold lowerChar
  extract_lets n
  split
  next ascii =>
    have own := small n ascii
    rwa [Char.ofNat_toNat] at own
  split
  next first last step shift found =>
    have above := large _ (List.mem_of_find?_eq_some found)
    have inside := List.find?_some found
    simp only [Bool.and_eq_true, decide_eq_true_eq] at inside
    dsimp only at above
    have capital : 'U'.toNat = 0x55 := rfl
    exact ofNat_ne (by omega) (by decide)
  next big _ _ =>
    rintro rfl
    exact big (by decide)

theorem unmarked_lower (text : String) : Unmarked (lower text) := by
  have after (before cs : List Char) : 'U' ∉ lowerAfter before cs := by
    induction cs generalizing before with
    | nil => simp [lowerAfter]
    | cons c rest ih =>
      rw [lowerAfter, List.mem_append, not_or]
      refine ⟨?_, ih _⟩
      split
      · decide
      split
      · split <;> decide
      · simpa using (lowerChar_ne c).symm
  simpa [Unmarked, lower] using after [] text.toList

/-! Quoted texts -/

theorem hexDigits_lower (width : Nat) {n : Nat} {c : Char} (mem : c ∈ hexDigits width n) :
    c ≠ 'U' ∧ c ≠ 'n' := by
  have digit : ∀ k < 16, Nat.digitChar k ≠ 'U' ∧ Nat.digitChar k ≠ 'n' := by decide
  induction width generalizing n with
  | zero => cases mem
  | succ width ih =>
    rw [hexDigits, List.mem_append, List.mem_singleton] at mem
    obtain mem | rfl := mem
    · exact ih mem
    · exact digit _ (Nat.mod_lt n (by decide))

/-- A character stands for itself, or it is written as a letter or a number behind a backslash. -/
theorem escapeChar_cases (quote c : Char) :
    escapeChar quote c = [c] ∨
      (∃ d, escapeChar quote c = ['\\', d] ∧ d ∈ [quote, '\\', 'n', 'r', 't']) ∨
      ∃ size d digits, escapeChar quote c = '\\' :: size :: d :: digits ∧
        ∀ x ∈ d :: digits, x ≠ 'U' ∧ x ≠ 'n' := by
  unfold escapeChar
  split
  next special =>
    refine .inr (.inl ⟨c, rfl, ?_⟩)
    obtain rfl | rfl := special <;> simp
  split
  · exact .inr (.inl ⟨'n', rfl, by simp⟩)
  split
  · exact .inr (.inl ⟨'r', rfl, by simp⟩)
  split
  · exact .inr (.inl ⟨'t', rfl, by simp⟩)
  split
  · exact .inl rfl
  · refine .inr (.inr ?_)
    unfold escapeCode
    split
    · exact ⟨_, _, _, rfl, fun _ => hexDigits_lower 2⟩
    split
    · exact ⟨_, _, _, rfl, fun _ => hexDigits_lower 4⟩
    · exact ⟨_, _, _, rfl, fun _ => hexDigits_lower 8⟩

variable {quote c : Char} {cs rest : List Char}

/-- The mark does not begin inside of an escape. -/
theorem mark_behind_escape (lower : quote ≠ 'U') (marked : mark <:+: escapeChar quote c ++ rest) :
    escapeChar quote c = [c] ∨ mark <:+: rest := by
  obtain same | ⟨d, written, short⟩ | ⟨size, d, digits, written, low⟩ := escapeChar_cases quote c
  · exact .inl same
  · have plain : 'U' ∉ ['\\', d] := by
      rintro member
      obtain rfl : 'U' = d := by simpa using member
      simp [lower.symm] at short
    exact .inr ((mark_infix_append plain).1 (written ▸ marked))
  · have plain : 'U' ∉ d :: digits := fun member => (low _ member).1 rfl
    rw [written, List.cons_append, List.infix_cons_iff] at marked
    obtain begins | marked := marked
    · cases (List.cons_prefix_cons.1 begins).1
    rw [List.cons_append, List.infix_cons_iff, mark_infix_append plain] at marked
    obtain begins | marked := marked
    · -- The letter of the longest escapes begins the mark, but no digit goes on with it.
      have second := (List.cons_prefix_cons.1 (List.cons_prefix_cons.1 begins).2).1
      exact absurd second.symm (low d List.mem_cons_self).2
    · exact .inr marked

/-- A text without backslashes that quoted text begins with is what the text itself begins with. -/
theorem prefix_of_prefix_escaped {w : List Char} (plain : '\\' ∉ w)
    (begins : w <+: cs.flatMap (escapeChar quote)) : w <+: cs := by
  induction w generalizing cs with
  | nil => exact List.nil_prefix
  | cons a w ih =>
    obtain ⟨first, others⟩ := not_or.1 (List.mem_cons.not.1 plain)
    cases cs with
    | nil => exact begins
    | cons c rest =>
      rw [List.flatMap_cons] at begins
      obtain same | ⟨d, written, -⟩ | ⟨size, d, digits, written, -⟩ := escapeChar_cases quote c
      · rw [same, List.singleton_append, List.cons_prefix_cons] at begins
        exact List.cons_prefix_cons.2 ⟨begins.1, ih others begins.2⟩
      · rw [written] at begins
        exact absurd (List.cons_prefix_cons.1 begins).1.symm first
      · rw [written] at begins
        exact absurd (List.cons_prefix_cons.1 begins).1.symm first

theorem mark_of_escaped (lower : quote ≠ 'U') (marked : mark <:+: cs.flatMap (escapeChar quote)) :
    mark <:+: cs := by
  induction cs with
  | nil => exact marked
  | cons c rest ih =>
    have further (later : mark <:+: rest.flatMap (escapeChar quote)) : mark <:+: c :: rest :=
      List.infix_cons_iff.2 (.inr (ih later))
    obtain same | later := mark_behind_escape lower marked
    · rw [List.flatMap_cons, same, List.singleton_append, List.infix_cons_iff] at marked
      obtain begins | later := marked
      · have whole : mark <+: (c :: rest).flatMap (escapeChar quote) := by
          rw [List.flatMap_cons, same]
          exact begins
        exact (prefix_of_prefix_escaped (by decide) whole).isInfix
      · exact further later
    · exact further later

/-- Quoting neither makes nor breaks the mark. -/
theorem marked_quote {s : String} : Marked (Text.quote s) ↔ Marked s := by
  obtain ⟨q, chosen, lower, foreign, same⟩ : ∃ q, quoteFor s.toList = q ∧ q ≠ 'U' ∧ q ∉ mark ∧
      mark.flatMap (escapeChar q) = mark := by
    unfold quoteFor
    split
    · exact ⟨_, rfl, by decide, by decide, by decide⟩
    · exact ⟨_, rfl, by decide, by decide, by decide⟩
  unfold Marked
  simp only [Text.quote, chosen, String.toList_ofList]
  have first : 'U' ∉ [q] := by simpa using lower.symm
  rw [← List.singleton_append, List.append_assoc, mark_infix_append first,
    mark_parted (detached_cons foreign)]
  constructor
  · rintro (inside | last)
    · exact mark_of_escaped lower inside
    · exact absurd (last.subset (by decide)) first
  · rintro ⟨before, after, text⟩
    rw [← text]
    refine .inl ⟨before.flatMap (escapeChar q), after.flatMap (escapeChar q), ?_⟩
    rw [List.flatMap_append, List.flatMap_append, same]

end Text

theorem Value.unmarked_typeName {α : Type} (v : Value α) : Unmarked v.typeName := by
  unfold typeName
  split <;> first | decide | exact Moment.unmarked_typeName _

end Dungeon
