/-!
# Sorting

Insertion into sorted lists. Elements that are level keep their order.
-/

namespace Dungeon

variable {β : Type}

/-- Put an element in front of the first one that it may stand before. -/
def insertBy (le : β → β → Bool) (x : β) : List β → List β
  | [] => [x]
  | y :: rest => if le x y then x :: y :: rest else y :: insertBy le x rest

def sortBy (le : β → β → Bool) (xs : List β) : List β := xs.foldr (insertBy le) []

theorem insertBy_perm (le : β → β → Bool) (x : β) (xs : List β) :
    (insertBy le x xs).Perm (x :: xs) := by
  induction xs with
  | nil => exact .refl _
  | cons y rest ih =>
    rw [insertBy]
    split
    · exact .refl _
    · exact (ih.cons y).trans (.swap x y rest)

/-- Sorting only moves elements. -/
theorem sortBy_perm (le : β → β → Bool) (xs : List β) : (sortBy le xs).Perm xs := by
  induction xs with
  | nil => exact .refl _
  | cons x rest ih => exact (insertBy_perm le x _).trans (ih.cons x)

/-- The texts in the order of their code points. -/
def sortedTexts (xs : List String) : List String := sortBy (fun a b => a ≤ b) xs

end Dungeon
