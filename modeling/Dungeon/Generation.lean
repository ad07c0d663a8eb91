import Dungeon.Constraint.Check
import Dungeon.Generator
import Dungeon.Run.Execute
import Dungeon.Statistics.Frame

/-!
# Generation

One generation resolves the parameters, runs the graph for a seed and checks the layout. Problems of
parameters, graphs and nodes, and failed constraints, make a failed generation and not a fault.
-/

namespace Dungeon

/-- What generators are supplied with: a stream for each seed and node, the predicates that
constraints ask by name, the host, and the frame of their summaries. -/
structure Supply (σ τ α : Type) [Scalar α] where
  stream : Int → String → σ
  registry : Constraint.Registry τ α
  host : Run.Host := {}
  frame : Frame α := .sorted

structure Generation (α : Type) where
  /-- The seed as it was given. -/
  seed : Value α
  success : Bool
  layout : Option (Layout α) := none
  checks : List (CheckResult α) := []
  data : RunData := {}
  errors : List String := []
  warnings : List String := []

namespace Generation

variable {α : Type}

def toValue (g : Generation α) : Value α :=
  .record [("seed", g.seed), ("success", .bool g.success),
    ("layout", .ofOption Layout.toValue g.layout),
    ("constraintResults", .list (g.checks.map CheckResult.toValue)),
    ("metadata", g.data.toValue), ("errors", .texts g.errors), ("warnings", .texts g.warnings)]

/-- The failed constraints of a severity, as lines. -/
def failures [Scalar α] (checks : List (CheckResult α)) (s : Severity) : List String :=
  (checks.filter fun r => !r.passed && r.severity == s).map CheckResult.line

/-- The failed constraints are listed with what was said of them, which may be a value that cannot be
written. -/
def listed [Scalar α] {β : Type} (checks : List (CheckResult α)) (x : β) : Except Fault β :=
  Value.writing ((checks.filter fun r => !r.passed).map CheckResult.message) x

/-- A generation whose layout has been checked. It succeeds unless a constraint failed as an
error. -/
def ofChecks [Scalar α] (seed : Value α) (r : RunReport α) (checks : List (CheckResult α)) :
    Generation α :=
  let errors := failures checks .error
  { seed, success := errors.isEmpty, layout := some r.layout, checks, data := r.data, errors
    warnings := r.warnings ++ failures checks .warning }

end Generation

/-- The errors of a generation that fails with this fault; other faults are not its own. -/
def Fault.errors? : Fault → Option (List String)
  | .invalidGraph vs => some (vs.map Violation.message)
  | f => if f.kind = .parameter ∨ f.kind = .node then some [f.message] else none

namespace Generator

variable {σ τ α : Type} [Scalar α] [Source σ α]

/-- Resolve the parameters and run the graph. The parameters come before the plan and the plan before
the seed, so what is wrong with them is said in this order. -/
def layOut (g : Generator τ α) (s : Supply σ τ α) (plan : Except Fault (Plan α))
    (overrides : Fields α) (seed : Value α) : Except Fault (RunReport α) := do
  let parameters ← Bindings.resolve g.parameters overrides
  let plan ← plan
  let root ← plan.seed seed
  Run.execute { plan, parameters, stream := s.stream root, host := s.host }

/-- Generate and check the layout for a seed. -/
def generate (g : Generator τ α) (s : Supply σ τ α) (plan : Except Fault (Plan α))
    (overrides : Fields α) (seed : Value α) : EStateM Fault τ (Generation α) :=
  match g.layOut s plan overrides seed with
  | .ok r => do
    let checks ← Constraint.evaluateAll s.registry g.constraints r.layout
    match Generation.listed checks (Generation.ofChecks seed r checks) with
    | .ok made => return made
    | .error f => throw f
  | .error f =>
    match f.errors? with
    | some errors => return { seed, success := false, errors }
    | none => throw f

/-- Try one seed after the other until a generation succeeds; `more` is the number of attempts that
are left after this one, `made` the number before it. -/
def attempt (g : Generator τ α) (s : Supply σ τ α) (plan : Plan α)
    (overrides : Fields α) (seed : Value α) :
    Nat → Nat → EStateM Fault τ (Generation α)
  | more, made => do
    let next ← match seed.plus made with
      | .ok v => pure v
      | .error f => throw f
    let r ← g.generate s (.ok plan) overrides next
    let r := { r with data := { r.data with retries := made } }
    match more with
    | 0 => return r
    | more + 1 => if r.success then return r else attempt g s plan overrides seed more (made + 1)

/-- How many attempts a number that is not below one allows: it is rounded up, and a number that no
count reaches allows as many as there are words. -/
def attemptCount (attempts : Value α) : Nat :=
  match attempts.number? with
  | some (.whole n) => n.toNat
  | some (.real x) =>
    match Scalar.floor (-x) with
    | .ok n => (-n).toNat
    | .error _ => Word.count64
  | none => 0

/-- Generate with at most so many attempts. A graph that is not valid is not tried again. -/
def generateWithRetry (g : Generator τ α) (s : Supply σ τ α) (plan : Except Fault (Plan α))
    (overrides : Fields α) (seed attempts : Value α) : EStateM Fault τ (Generation α) :=
  match Value.compare .lt attempts (.int 1) with
  | .error f => throw f
  | .ok true => throw .attempts
  | .ok false =>
    match plan with
    | .ok plan => g.attempt s plan overrides seed (attemptCount attempts - 1) 0
    | .error (.invalidGraph vs) => g.generate s (.error (.invalidGraph vs)) overrides seed
    | .error f => throw f

end Generator

end Dungeon
