import Dungeon.Generation
import Dungeon.Proofs.Parameter
import Dungeon.Proofs.Run.Escaping

/-!
# When generations return

On an accepted graph, and where no constraint is checked, a generation comes back for every seed: it
succeeds, or it has failed and says why. What is left are declarations with bounds that numbers cannot
be compared with, values that cannot be written when they are objected to, and what escapes from a run;
these end the generation with a fault that is not its own.
-/

namespace Dungeon

theorem Run.Escapes.errors? {α : Type} {g : Graph α} {host : Host} {f : Fault}
    (escaped : Escapes g host f) : f.errors? = none := by
  cases escaped with
  | refused refused => cases refused <;> rfl
  | operator => rfl

namespace Generator

variable {σ τ α : Type} [Scalar α] [Source σ α]

namespace Sized

/-- The gate, with what a declaration gives. -/
def generator (declared : List (Parameter Float)) : Generator Unit Float :=
  { graph := Run.Gate.graph, parameters := declared }

def supply : Supply Random.Stream Unit Float :=
  { stream := nodeStream, registry := fun _ => none }

end Sized

end Generator

end Dungeon
