import Dungeon.Parameter

/-!
# Batches

What a batch is to run: a number of seeds in a row, or a list of seeds; and how it reports. All of it
is kept as it is given. Numbers are checked before the batch runs; that they are whole is noticed
where they are used.
-/

namespace Dungeon

structure BatchConfig (α : Type) where
  runs : Value α
  firstSeed : Value α := .int 0
  /-- Seeds that replace the row of seeds. -/
  seeds : Option (List (Value α)) := none
  parameters : Fields α := []
  workers : Value α := .null
  buckets : Value α := .int 10
  /-- Progress is reported after so many generations, and at the end. -/
  interval : Value α := .int 10

namespace BatchConfig

variable {α : Type}

/-- The seeds of the batch, in their order. -/
def seedList (c : BatchConfig α) : Except Fault (List (Value α)) :=
  match c.seeds with
  | some seeds => .ok seeds
  | none => do
    let runs ← c.runs.toCount
    let first ← c.firstSeed.toCount
    return (List.range runs.toNat).map fun (i : Nat) => .int (first + i)

/-- The batch as it is reported, with the number of its seeds. -/
def toValue (c : BatchConfig α) (count : Nat) : Value α :=
  .record [("runCount", .int count), ("seedStart", c.firstSeed),
    ("seeds", .ofOption .list c.seeds), ("parameters", .object c.parameters),
    ("workers", c.workers), ("histogramBuckets", c.buckets)]

variable [Scalar α]

/-- A value must not be below a limit. -/
def checkLeast (v : Value α) (least : Int) (otherwise : Fault) : Except Fault Unit := do
  if ← Value.compare .lt v (.int least) then throw otherwise

/-- The first thing that is wrong with a batch. -/
def check (c : BatchConfig α) : Except Fault Unit := do
  checkLeast c.runs 0 .negativeRuns
  checkLeast c.buckets 1 (.belowOne "histogram_buckets")
  checkLeast c.interval 1 (.belowOne "progress_interval")
  if !c.workers.isNull then checkLeast c.workers 1 .workers

/-- How many generations are made at a time: no more than there are seeds, and at least one. -/
def workerCount (workers : Value α) (seeds : Nat) : Except Fault Int :=
  match workers.number? with
  | none => .ok 1
  | some n =>
    let n := if Number.lt (.whole seeds) n then .whole seeds else n
    if Number.lt (.whole 1) n then Value.toCount (.num n) else .ok 1

end BatchConfig

/-- How many generations of a batch are done. -/
structure BatchProgress (α : Type) where
  completed : Value α
  total : Value α

namespace BatchProgress

variable {α : Type}

def ofCounts (completed total : Nat) : BatchProgress α := ⟨.int completed, .int total⟩

/-- The part that is done; of nothing, everything is done. -/
def fraction [Scalar α] (p : BatchProgress α) : Except Fault (Value α) :=
  if !p.total.truthy then .ok (.real 1.0)
  else
    match p.completed.number?, p.total.number? with
    | some (.whole m), some (.whole n) =>
      match Scalar.ratio? m n with
      | some x => .ok (.real x)
      | none => .error .quotientTooLarge
    | some m, some n => do return .real ((← m.toScalar) / (← n.toScalar))
    | _, _ => .error (.noOperation "/" p.completed.typeName p.total.typeName)

def toValue (p : BatchProgress α) : Value α :=
  .record [("completed", p.completed), ("total", p.total)]

end BatchProgress

end Dungeon
