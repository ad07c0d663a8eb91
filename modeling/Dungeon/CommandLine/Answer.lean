import Dungeon.Batch.Runner
import Dungeon.CommandLine.Request
import Dungeon.Json.Writer
import Dungeon.Settings
import Dungeon.SourceFile

/-!
# Answers

What comes of a request: a value that is printed, if any, and the exit code. The code is 0 for
success, 1 for a failure that is the user's, and 2 for arguments that make no sense.
-/

namespace Dungeon.CommandLine

structure Answer (α : Type) where
  code : Nat
  output : Option (Value α) := none

variable {σ τ α : Type} [Scalar α] [Source σ α]

/-- The settings under the name `engine` of a file; without the file all are as usual. -/
def readSettings (config : Option SourceFile) : Except Fault (Settings α) :=
  match config with
  | none => .ok {}
  | some f =>
    if f.text.isNone then .ok {}
    else do
      let engine := Value.field (← (← f.readYaml "Engine").members "get") "engine"
      Settings.read (if engine.truthy then engine else .object [])

/-- An answer that prints a value. -/
def printing (success : Bool) (v : Value α) : Except Fault (Answer α) := do
  return { code := if success then 0 else 1, output := some (← Json.reportable Json.maxNesting v) }

/-- The result of work on checks that start from a state. -/
def ended {β : Type} (act : EStateM Fault τ β) (checks : τ) : Except Fault β :=
  match act checks with
  | .ok v _ => .ok v
  | .error f _ => .error f

/-- The number of attempts; none and 0 leave it to the settings. -/
def attemptsOf (s : Settings α) (attempts : Option Int) : Value α :=
  match attempts.filter (· ≠ 0) with
  | some n => .int n
  | none => s.retryAttempts

/-- Do what a request asks for. -/
def perform (supply : Supply σ τ α) (checks : τ) (s : Settings α) (g : Generator τ α) :
    Command → Except Fault (Answer α)
  | .validate => do
    let r ← g.graph.validate
    printing r.valid r.toValue
  | .generate seed parameters retry attempts => do
    let b ← Bindings.ofTexts parameters
    let plan := Plan.ofValid g.graph s.placementRetries
    let made ← ended
      (if retry then g.generateWithRetry supply plan b (.int seed) (attemptsOf s attempts)
        else g.generate supply plan b (.int seed)) checks
    printing made.success made.toValue
  | .simulate runs firstSeed workers parameters => do
    let b ← Bindings.ofTexts parameters
    let c : BatchConfig α := {
      runs := .int runs, firstSeed := .int firstSeed, workers := .ofOption .int workers
      parameters := b, buckets := s.histogramBuckets, interval := s.progressInterval }
    c.check
    let (outcome, _) ← ended (Runner.run g supply c s fun _ => false) { checks }
    printing true outcome.toValue

/-- A failure that is the user's ends with code 1; problems of the graph are printed. -/
def failed (f : Fault) : Except Fault (Answer α) :=
  match f with
  | .invalidGraph vs =>
    let problems : Value α := .list (vs.map Violation.toValue)
    .ok { code := 1, output := some (.record [("valid", .bool false), ("errors", problems)]) }
  | f =>
    match f.kind with
    | .missingFile | .key | .value | .encoding | .parameter | .json | .yaml _ => .ok { code := 1 }
    | _ => .error f

/-- The answer to a request, given the files that it names. -/
def answer (supply : Supply σ τ α) (checks : τ) (read : String → Option String) (r : Request) :
    Except Fault (Answer α) := do
  let file (path : String) : SourceFile := ⟨path, read path⟩
  let s ← readSettings (r.config.map file)
  if !r.levelGiven then
    let _ ← s.loggingLevel
  let done : Except Fault (Answer α) := do
    perform supply checks s (← (file r.file).readGenerator r.generatorId) r.command
  match done with
  | .ok a => return a
  | .error f => failed f

/-- The answer to arguments. -/
def respond (supply : Supply σ τ α) (checks : τ) (read : String → Option String)
    (args : List String) : Except Fault (Answer α) :=
  match parse args with
  | .ok r => answer supply checks read r
  | .error .help => .ok { code := 0 }
  | .error .misuse => .ok { code := 2 }

end Dungeon.CommandLine
