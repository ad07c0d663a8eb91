import Dungeon.Batch.Config
import Dungeon.Settings
import Dungeon.Statistics.Summary

/-!
# Runners

A runner generates for all seeds of a batch, one after the other. Whoever watches the batch hears of
its progress from time to time and may cancel it; then nothing new starts, and no summary is made of
the generations that are done. A batch can also be cancelled before it starts. Cancelling ends with
the batch.
-/

namespace Dungeon

/-- A runner between and in batches; `checks` is the state of the predicates. -/
structure Runner (τ : Type) where
  checks : τ
  cancelled : Bool := false
  completed : Nat := 0
  total : Nat := 0

structure BatchResults (α : Type) where
  config : BatchConfig α
  runs : Nat
  summary : Summary α
  warnings : List String

inductive BatchOutcome (α : Type)
  | finished (r : BatchResults α)
  | cancelled (p : BatchProgress α)

namespace BatchOutcome

variable {α : Type}

def toValue [Scalar α] : BatchOutcome α → Value α
  | finished r =>
    .record [("config", r.config.toValue r.runs), ("runs", .int r.runs),
      ("successRate", .real r.summary.successRate),
      ("distributions", r.summary.distributionsValue),
      ("constraintResults", r.summary.talliesValue), ("warnings", .texts r.warnings)]
  | cancelled p =>
    .record [("cancelled", .bool true), ("completed", p.completed), ("total", p.total)]

end BatchOutcome

/-- What a batch has come to: its generations, and the progress that was reported. -/
structure Batch (α : Type) where
  generations : List (Generation α) := []
  reports : List (BatchProgress α) := []

namespace Runner

variable {σ τ α : Type}

def progress (r : Runner τ) : BatchProgress α := .ofCounts r.completed r.total

def cancel (r : Runner τ) : Runner τ := { r with cancelled := true }

/-- Get ready for a batch of a size. -/
def start (r : Runner τ) (total : Nat) : Runner τ := { r with completed := 0, total }

def clear (r : Runner τ) : Runner τ := { r with cancelled := false }

/-- Is the interval full after so many generations? -/
def isFull [Scalar α] (interval : Value α) (completed : Nat) : Bool :=
  match interval.number? with
  | some (.whole n) => (completed : Int) % n == 0
  | some (.real x) => Scalar.divides x completed
  | none => false

/-- Is progress reported now? -/
def due [Scalar α] (r : Runner τ) (interval : Value α) : Bool :=
  isFull interval r.completed || r.completed == r.total

/-- Count a generation that is done; the watcher may cancel when it hears of it. -/
def count [Scalar α] (r : Runner τ) (interval : Value α) (cancels : BatchProgress α → Bool) :
    Runner τ :=
  let r := { r with completed := r.completed + 1 }
  if r.due interval && cancels r.progress then r.cancel else r

/-- Add a generation, and the report of it when one is due. -/
def note [Scalar α] (b : Batch α) (r : Runner τ) (interval : Value α) (g : Generation α) :
    Batch α :=
  { generations := b.generations ++ [g]
    reports := if r.due interval then b.reports ++ [r.progress] else b.reports }

/-- Work on the checks that generations make. -/
def checking {β : Type} (act : EStateM Fault τ β) : EStateM Fault (Runner τ) β := fun r =>
  match act r.checks with
  | .ok v checks => .ok v { r with checks }
  | .error f checks => .error f { r with checks }

/-- Cancelling ends with the work, also when it fails. -/
def clearing {β : Type} (act : EStateM Fault (Runner τ) β) : EStateM Fault (Runner τ) β := fun r =>
  match act r with
  | .ok v r => .ok v r.clear
  | .error f r => .error f r.clear

variable [Scalar α] [Source σ α]

/-- Generate for seed after seed, until the runner is cancelled. -/
def runSeeds (g : Generator τ α) (s : Supply σ τ α) (plan : Plan α) (c : BatchConfig α)
    (cancels : BatchProgress α → Bool) :
    List (Value α) → Batch α → EStateM Fault (Runner τ) (Batch α)
  | [], b => return b
  | seed :: rest, b => do
    if (← get).cancelled then return b
    let made ← checking (g.generate s (.ok plan) c.parameters seed)
    modify fun r => r.count c.interval cancels
    runSeeds g s plan c cancels rest (note b (← get) c.interval made)

/-- Generate for all seeds. The number of workers must be whole when there is a seed. -/
def runAll (g : Generator τ α) (s : Supply σ τ α) (plan : Plan α) (c : BatchConfig α)
    (workers : Value α) (cancels : BatchProgress α → Bool) (seeds : List (Value α)) :
    EStateM Fault (Runner τ) (Batch α) := do
  if !seeds.isEmpty then
    match BatchConfig.workerCount workers seeds.length with
    | .ok _ => pure ()
    | .error f => throw f
  runSeeds g s plan c cancels seeds {}

/-- Run a batch of a generator whose graph must be valid. -/
def run (g : Generator τ α) (s : Supply σ τ α) (c : BatchConfig α) (settings : Settings α)
    (cancels : BatchProgress α → Bool) :
    EStateM Fault (Runner τ) (BatchOutcome α × List (BatchProgress α)) := do
  let lift {β : Type} (x : Except Fault β) : EStateM Fault (Runner τ) β :=
    match x with
    | .ok v => return v
    | .error f => throw f
  let plan ← lift (Plan.ofValid g.graph settings.placementRetries)
  let seeds ← lift c.seedList
  modify fun r => r.start seeds.length
  let workers := if c.workers.truthy then c.workers else settings.workers
  let b ← clearing (runAll g s plan c workers cancels seeds)
  if b.generations.length < seeds.length then
    return (.cancelled (← get).progress, b.reports)
  let summary ← lift
    (Summary.ofFrame s.frame b.generations (g.constraints.map Constraint.id) c.buckets)
  return (.finished {
    config := c, runs := b.generations.length, summary
    warnings := Summary.warnings b.generations }, b.reports)

end Runner

end Dungeon
