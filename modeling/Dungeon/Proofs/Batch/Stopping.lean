import Dungeon.Proofs.Batch.Independence

/-!
# Where batches stop

A batch with one worker makes its generations in the order of the seeds. It reports after so many of
them each, and after the last one; the first report at which the watcher cancels is the last one. What
was made until then are the generations of the first seeds, one after the other, and nothing else.
-/

namespace Dungeon

section

variable {ε ρ β γ : Type} {act : β → EStateM ε ρ γ}

end

namespace Runner

variable {σ τ α : Type} [Scalar α] [Source σ α]

/-- A batch with an interval reports after so many of all its generations. -/
def Reports (interval : Int) (total done : Nat) : Prop := interval ∣ done ∨ done = total

instance (interval : Int) (total done : Nat) : Decidable (Reports interval total done) :=
  inferInstanceAs (Decidable (_ ∨ _))

/-- The reports of some more generations. -/
def reported (interval : Int) (total done more : Nat) : List (BatchProgress α) :=
  ((List.range' (done + 1) more).filter fun k => decide (Reports interval total k)).map
    fun k => .ofCounts k total

/-- The watcher cancels at the report after so many generations. -/
def Asks (watch : BatchProgress α → Bool) (interval : Int) (total done : Nat) : Prop :=
  Reports interval total done ∧ watch (.ofCounts done total) = true

instance (watch : BatchProgress α → Bool) (interval : Int) (total done : Nat) :
    Decidable (Asks watch interval total done) :=
  inferInstanceAs (Decidable (_ ∧ _))

section

variable {g : Generator τ α} {s : Supply σ τ α} {plan : Plan α} {c : BatchConfig α}
  {watch : BatchProgress α → Bool} {interval : Int}

variable {settings : Settings α} {seeds : List (Value α)} {r : Runner τ}
  {made : List (Generation α)} {t : τ}

/-- What a batch comes to that makes all its generations. -/
def results (g : Generator τ α) (s : Supply σ τ α) (c : BatchConfig α) (interval : Int)
    (made : List (Generation α)) : Except Fault (BatchOutcome α × List (BatchProgress α)) :=
  (Summary.ofFrame s.frame made (g.constraints.map Constraint.id) c.buckets).map fun summary =>
    (.finished { config := c, runs := made.length, summary, warnings := Summary.warnings made },
      reported interval made.length 0 made.length)

section

variable (valid : ∃ found, g.graph.ensureValid = .ok found) (listed : c.seedList = .ok seeds)
  (every : c.interval = .int interval)
  (one : BatchConfig.workerCount (if c.workers.truthy then c.workers else settings.workers)
    seeds.length = .ok 1)
  (single : seeds.mapM (g.generate s (.ok ⟨g.graph, settings.placementRetries⟩) c.parameters)
    r.checks = .ok made t)

include valid listed every one single

end

end

namespace Watched

open Repeated (supply)

/-- The vault five times, reported in pairs. -/
def batch : BatchConfig Float where
  runs := .int 5
  interval := .int 2
  workers := .int 1
  parameters := .ofTexts [("open", .bool false)]

def generator : Generator Unit Float := { graph := Vault.graph }

/-- Cancel when so many are done. -/
def watch (last : Int) (p : BatchProgress Float) : Bool := Value.eq p.completed (.int last)

def made : EStateM.Result Fault Unit (List (Generation Float)) :=
  ([0, 1, 2, 3, 4].map Value.int).mapM
    (generator.generate supply (Plan.ofValid generator.graph (.int 8)) batch.parameters) ()

end Watched

end Runner

end Dungeon
