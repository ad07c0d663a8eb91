import Mathlib.Data.List.Basic

/-!
# Numbered names

Rooms of a chain and entities are named by a stem, a mark and a number. As the mark is no digit, the
last one in a name ends the stem, whatever the stem looks like.
-/

namespace Dungeon.Text

/-- Where a mark comes last, it parts a list in one way. -/
theorem append_mark_inj {β : Type} {m : β} {xs ys ds es : List β} (hd : m ∉ ds) (he : m ∉ es)
    (h : xs ++ m :: ds = ys ++ m :: es) : xs = ys ∧ ds = es := by
  rcases List.append_eq_append_iff.1 h with ⟨as, rfl, rest⟩ | ⟨as, rfl, rest⟩
  all_goals
    cases as with
    | nil => simpa [eq_comm] using rest
    | cons a as =>
      obtain ⟨rfl, rfl⟩ := List.cons.inj rest
      simp at hd he

/-- Behind a stem that is known a name tells its number. -/
theorem append_toString_inj {stem : String} {i j : Nat} :
    stem ++ toString i = stem ++ toString j ↔ i = j := by
  refine ⟨fun same => ?_, fun same => by rw [same]⟩
  have digits := congrArg String.toList same
  simp only [String.toList_append, List.append_cancel_left_eq, Nat.toString_eq_repr,
    Nat.toList_repr] at digits
  have number := congrArg (fun ds => Nat.ofDigitChars 10 ds 0) digits
  simpa using number

variable {mark : String} {c : Char} (single : mark.toList = [c])
include single

theorem toList_marked (a t : String) : (a ++ mark ++ t).toList = a.toList ++ c :: t.toList := by
  rw [String.toList_append, String.toList_append, single, List.append_assoc]
  rfl

/-- A name tells its stem and its number. -/
theorem numbered_inj (plain : c.isDigit = false) {a b : String} {i j : Nat} :
    a ++ mark ++ toString i = b ++ mark ++ toString j ↔ a = b ∧ i = j := by
  have unmarked (i : Nat) : c ∉ Nat.toDigits 10 i := by
    intro member
    have digit := Nat.isDigit_of_mem_toDigits (by decide) (by decide) member
    rw [plain] at digit
    cases digit
  refine ⟨fun same => ?_, fun ⟨stem, number⟩ => by rw [stem, number]⟩
  have same := congrArg String.toList same
  simp only [toList_marked single, Nat.toString_eq_repr, Nat.toList_repr] at same
  obtain ⟨stem, digits⟩ := append_mark_inj (unmarked i) (unmarked j) same
  have number := congrArg (fun ds => Nat.ofDigitChars 10 ds 0) digits
  exact ⟨String.toList_inj.1 stem, by simpa using number⟩

/-- Two ways to part a name at a mark are the same way, or the mark comes twice in the name. -/
theorem marked_cases {a b t u : String} (same : a ++ mark ++ t = b ++ mark ++ u) :
    a = b ∨ (∃ rest, b = a ++ mark ++ rest) ∨ ∃ rest, a = b ++ mark ++ rest := by
  have further {a b : String} {as ts us : List Char} (longer : b.toList = a.toList ++ as)
      (after : c :: ts = as ++ c :: us) : a = b ∨ ∃ rest, b = a ++ mark ++ rest := by
    cases as with
    | nil => exact .inl (String.toList_inj.1 (by simpa using longer.symm))
    | cons d rest =>
      cases after
      refine .inr ⟨String.ofList rest, String.toList_inj.1 ?_⟩
      rw [longer, toList_marked single, String.toList_ofList]
  have letters := congrArg String.toList same
  rw [toList_marked single, toList_marked single] at letters
  rcases List.append_eq_append_iff.1 letters with ⟨as, longer, after⟩ | ⟨as, longer, after⟩
  · exact (further longer after).imp_right .inl
  · exact (further longer after).imp Eq.symm .inr

end Dungeon.Text
