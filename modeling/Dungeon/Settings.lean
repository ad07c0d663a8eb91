import Dungeon.Conversion
import Dungeon.Text.Case

/-!
# Settings

What can be set for all generations and batches. Settings are kept as they are given; only those
that must be at least one are checked, and a setting without a meaning is ignored.
-/

namespace Dungeon

structure Settings (α : Type) where
  workers : Value α := .null
  histogramBuckets : Value α := .int 10
  progressInterval : Value α := .int 10
  placementRetries : Value α := .int 8
  retryAttempts : Value α := .int 5
  logLevel : Value α := .text "INFO"

namespace Settings

variable {α : Type} [Scalar α]

open Value

/-- A setting must be a number of at least one. -/
def atLeastOne (v : Value α) (otherwise : Fault) : Except Fault Unit := do
  if ← Value.compare .lt v (.int 1) then throw otherwise

def check (s : Settings α) : Except Fault Unit := do
  atLeastOne s.histogramBuckets (.belowOne "histogram_buckets")
  atLeastOne s.progressInterval (.belowOne "progress_interval")
  if !s.workers.isNull then atLeastOne s.workers .workers

/-- The names that have a meaning. -/
def names : List String :=
  ["workers", "histogram_buckets", "progress_interval", "placement_retries", "retry_attempts",
    "log_level"]

omit [Scalar α] in
/-- Is this a name without a meaning? -/
def isStray (name : Value α) : Bool := !(name.text?.any names.contains)

/-- The settings that an object gives, and the usual ones besides. Names without a meaning are
ignored, but they must have an order. -/
def read (v : Value α) : Except Fault (Settings α) := do
  let given ← (← v.parts).mapM key
  checkOrder (given.filter isStray)
  let ps ← v.members "items"
  let usual : Settings α := {}
  let s : Settings α := {
    workers := fieldOr ps "workers" usual.workers
    histogramBuckets := fieldOr ps "histogram_buckets" usual.histogramBuckets
    progressInterval := fieldOr ps "progress_interval" usual.progressInterval
    placementRetries := fieldOr ps "placement_retries" usual.placementRetries
    retryAttempts := fieldOr ps "retry_attempts" usual.retryAttempts
    logLevel := fieldOr ps "log_level" usual.logLevel }
  s.check
  return s

omit [Scalar α] in
def toValue (s : Settings α) : Value α :=
  .record [("workers", s.workers), ("histogram_buckets", s.histogramBuckets),
    ("progress_interval", s.progressInterval), ("placement_retries", s.placementRetries),
    ("retry_attempts", s.retryAttempts), ("log_level", s.logLevel)]

def levels : List (String × Int) :=
  [("CRITICAL", 50), ("FATAL", 50), ("ERROR", 40), ("WARN", 30), ("WARNING", 30), ("INFO", 20),
    ("DEBUG", 10), ("NOTSET", 0)]

omit [Scalar α] in
/-- The number of the log level; a level without a name of its own is that of information. -/
def loggingLevel (s : Settings α) : Except Fault Int :=
  match s.logLevel with
  | .text name => .ok ((levels.lookup (Text.upperToAscii name)).getD 20)
  | v => .error (.noMember v.typeName "upper")

end Settings

end Dungeon
