import Dungeon.Proofs.Failing
import Dungeon.Proofs.Sorting
import Dungeon.Proofs.Table
import Dungeon.Statistics.Summary
import Mathlib.Data.List.Perm.Basic

/-!
# What summaries count

A summary takes generations by seed. Where the seed decides the generation, it does not depend on the
order in which the generations were made, nor on the frame, as long as this keeps the rows. Each of
its distributions counts the layouts, and each of its tallies the checks of one constraint.
-/

namespace Dungeon

variable {α : Type} [Scalar α]

/-- The seed of a row is a whole number of 64 bits. -/
def Row.Fits (row : Row α) : Prop := ∃ n, row.seed = .int n ∧ Word.isSigned n = true

namespace Frame

/-- A frame keeps all rows whose seeds are whole numbers of 64 bits, and sorts them by seed. -/
def Keeps (frame : Frame α) : Prop :=
  ∀ rows, (∀ row ∈ rows, row.Fits) → ∃ kept, frame.fill rows = .ok kept ∧ kept.Perm rows ∧
    kept.Pairwise fun a b => a.key ≤ b.key

end Frame

/-- A generation has a result for each of the constraints in turn if it has a layout, and no results
if it has none. -/
def Generation.Answers (g : Generation α) (ids : List String) : Prop :=
  g.checks.map CheckResult.constraintId = if g.layout.isSome then ids else []

namespace Summary

end Summary

end Dungeon
