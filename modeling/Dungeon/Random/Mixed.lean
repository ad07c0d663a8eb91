import Dungeon.Number.Arithmetic
import Dungeon.Random.Draw

/-!
# Draws in mixed arithmetic

What is drawn is a real number, also where whole numbers stay whole.
-/

namespace Dungeon

/-- A stream whose draws are numbers as written. -/
structure Mixed (σ : Type) where
  stream : σ

instance {σ α : Type} [Source σ α] : Source (Mixed σ) (Number α) where
  unit s := let (u, t) := Source.unit s.stream; (.real u, ⟨t⟩)
  upTo r s := let (n, t) := Source.upTo r s.stream; (n, ⟨t⟩)

end Dungeon
