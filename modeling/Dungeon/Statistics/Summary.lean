import Dungeon.Generation
import Dungeon.RoomGraph
import Dungeon.Statistics.Distribution

/-!
# Summaries

What the generations of a batch have in common: the distribution of each metric of their layouts,
how often each constraint passed, and the rate of success. Generations are taken by seed, so a
summary does not depend on the order in which they were made.
-/

namespace Dungeon

/-- How often a constraint was checked, and how often it passed. -/
structure Tally where
  checked : Nat := 0
  passed : Nat := 0

namespace Tally

variable {α : Type}

def add (t : Tally) (passed : Bool) : Tally :=
  { checked := t.checked + 1, passed := t.passed + if passed then 1 else 0 }

/-- A part of a whole; nothing is no part of nothing. -/
def rate [Scalar α] (part whole : Nat) : α :=
  if whole = 0 then 0.0 else Scalar.ofNat part / Scalar.ofNat whole

def toValue [Scalar α] (t : Tally) (id : String) : Value α :=
  .record [("constraintId", .text id), ("passRate", .real (rate t.passed t.checked)),
    ("violations", .int (t.checked - t.passed : Nat)), ("evaluated", .int t.checked)]

end Tally

structure Summary (α : Type) where
  distributions : List (String × Distribution α)
  tallies : Table String Tally
  successRate : α

namespace Summary

variable {α : Type}

/-- The whole number that the seed of a generation stands for. -/
def seedOf [Scalar α] (g : Generation α) : Int := g.seed.toWhole.toOption.getD 0

def bySeed [Scalar α] (gs : List (Generation α)) : List (Generation α) :=
  sortBy (fun a b => seedOf a ≤ seedOf b) gs

/-- The metrics of a generation that has a layout. -/
def metrics? (g : Generation α) : Option Metrics := g.layout.map Metrics.ofLayout

def row (g : Generation α) : Row α := { seed := g.seed, success := g.success, metrics := metrics? g }

/-- The tally of each constraint, of declared ones also when they were never checked. -/
def tally [Scalar α] (declared : List String) (gs : List (Generation α)) : Table String Tally :=
  ((bySeed gs).flatMap Generation.checks).foldl
    (fun t r => t.adjust r.constraintId {} (·.add r.passed))
    (Table.ofList (declared.map fun id => (id, {})))

variable [Scalar α]

/-- One metric of all layouts. -/
def column (gs : List (Generation α)) (metric : Metrics → Nat) : List α :=
  Frame.column (gs.map row) metric

/-- A summary is made of the rows that come out of a frame, and of the checks. -/
def ofFrame (frame : Frame α) (gs : List (Generation α)) (declared : List String)
    (buckets : Value α) : Except Fault (Summary α) := do
  let rows ← frame.fill (gs.map row)
  let distributions ← Metrics.all.mapM fun (name, metric) => do
    return (name, ← Distribution.ofValues (Frame.column rows metric) buckets)
  return {
    distributions
    tallies := tally declared gs
    successRate := Tally.rate (rows.countP Row.success) rows.length }

/-- The summary in the frame that takes all rows. -/
def ofGenerations (gs : List (Generation α)) (declared : List String) (buckets : Value α) :
    Except Fault (Summary α) := ofFrame .sorted gs declared buckets

/-- The warnings of all generations, each once, in the order of code points. -/
def warnings (gs : List (Generation α)) : List String :=
  (sortedTexts (gs.flatMap Generation.warnings)).eraseDups

def distributionsValue (s : Summary α) : Value α :=
  .record (s.distributions.map fun (name, d) => (name, d.toValue))

def talliesValue (s : Summary α) : Value α :=
  .record (s.tallies.entries.map fun (id, t) => (id, t.toValue id))

end Summary

end Dungeon
