import Dungeon.Proofs.Batch.Running
import Dungeon.Proofs.Run.Growth
import Dungeon.Proofs.Statistics.Summary

/-!
# Batches of independent generations

Where the checks depend on the layout alone, a generation depends on its seed alone. A batch that
nobody cancels then comes to the summary of the generations that its seeds have by themselves, in
whatever order they are taken.
-/

namespace Dungeon

variable {σ τ α : Type} [Scalar α] [Source σ α]

namespace Runner

section

variable {g : Generator τ α} {s : Supply σ τ α} {plan : Plan α} {c : BatchConfig α}
  {watch : BatchProgress α → Bool} {seeds : List Int} {fresh : Int → Generation α}

variable {settings : Settings α}

end

namespace Repeated

/-- A count of at least two rooms. -/
def rooms : Constraint Unit Float :=
  { id := "rooms", type := .count, parameters := .ofTexts [("min", .int 2)] }

/-- The vault, where the count is asked for twice. -/
def generator : Generator Unit Float := { graph := Vault.graph, constraints := [rooms, rooms] }

/-- All nodes draw alike, from the seed. -/
def supply : Supply Random.Stream Unit Float :=
  { stream := fun seed _ => .ofSeed (.ofNat seed.toNat), registry := fun _ => none }

/-- A batch with the gate closed, in which one seed comes twice. -/
def batch : BatchConfig Float where
  runs := .int 3
  seeds := some [.int 5, .int 3, .int 5]
  parameters := .ofTexts [("open", .bool false)]

def made (seed : Int) : EStateM.Result Fault Unit (Generation Float) :=
  generator.generate supply (Plan.ofValid Vault.graph (.int 8)) batch.parameters (.int seed) ()

def fresh (seed : Int) : Generation Float :=
  (answer (made seed)).toOption.getD { seed := .int seed, success := false }

end Repeated

end Runner

end Dungeon
