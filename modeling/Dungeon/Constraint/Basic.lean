import Dungeon.Conversion
import Dungeon.Layout

/-!
# Constraints

What a finished layout is checked for. A constraint of the custom type asks a predicate, which the
surroundings supply; a predicate may keep a state `τ` between the layouts that it is asked about.
-/

namespace Dungeon

inductive ConstraintType
  | distance
  | count
  | density
  | progression
  | required
  | forbidden
  | connected
  | custom
  deriving DecidableEq

namespace ConstraintType

def all : List ConstraintType :=
  [distance, count, density, progression, required, forbidden, connected, custom]

def name : ConstraintType → String
  | distance => "distance"
  | count => "count"
  | density => "density"
  | progression => "progression"
  | required => "required"
  | forbidden => "forbidden"
  | connected => "connected"
  | custom => "custom"

def ofName? (name : String) : Option ConstraintType := all.find? (·.name == name)

theorem ofName?_name (t : ConstraintType) : ofName? t.name = some t := by cases t <;> decide

end ConstraintType

inductive Severity
  | error
  | warning
  deriving DecidableEq

namespace Severity

def name : Severity → String
  | error => "error"
  | warning => "warning"

def ofName? (name : String) : Option Severity := [error, warning].find? (·.name == name)

theorem ofName?_name (s : Severity) : ofName? s.name = some s := by cases s <;> decide

end Severity

/-- What a predicate says of a layout: it passes when `value` holds. -/
structure Opinion (α : Type) where
  value : Value α
  message : Value α := .null

abbrev Predicate (τ α : Type) :=
  Layout α → Fields α → EStateM Fault τ (Opinion α)

structure Constraint (τ α : Type) where
  id : String
  type : ConstraintType
  parameters : Fields α := []
  severity : Severity := .error
  /-- Said in place of the reason for a failure, when it holds. -/
  errorMessage : Value α := .null
  /-- A predicate of the constraint's own, asked in place of a named one. -/
  predicate : Option (Predicate τ α) := none

namespace Constraint

variable {τ α : Type} [Scalar α]

open Value

def readType (v : Value α) : Except Fault ConstraintType :=
  match v.text?.bind ConstraintType.ofName? with
  | some t => .ok t
  | none => .error (.quoting [v] (.unknownConstraint v.quoted))

def readSeverity (v : Value α) : Except Fault Severity :=
  match v.text?.bind Severity.ofName? with
  | some s => .ok s
  | none => .error (.quoting [v] (.unknownSeverity v.quoted))

/-- A constraint as files declare it. -/
def read (v : Value α) : Except Fault (Constraint τ α) := do
  let ps ← match v with
    | .object ps => pure ps
    | v => throw (.notIndexable v.typeName)
  let type ← readType (← require ps "type")
  let severity ← readSeverity (fieldOr ps "severity" (.text "error"))
  let id ← (fieldOr ps "id" (.text type.name)).toText
  let parameters ← (field ps "parameters").fieldsOrNone
  return { id, type, severity, parameters, errorMessage := field ps "errorMessage" }

omit [Scalar α] in
def toValue (c : Constraint τ α) : Value α :=
  .record [("id", .text c.id), ("type", .text c.type.name),
    ("parameters", .object c.parameters), ("severity", .text c.severity.name),
    ("errorMessage", c.errorMessage)]

omit [Scalar α] in
/-- A parameter, null when it is not given. -/
def parameter (c : Constraint τ α) (name : String) : Value α := field c.parameters name

omit [Scalar α] in
/-- A parameter that must be given. -/
def demand (c : Constraint τ α) (name : String) : Except Fault (Value α) :=
  require c.parameters name

end Constraint

/-- What was found about one constraint. -/
structure CheckResult (α : Type) where
  constraintId : String
  passed : Bool
  message : Value α
  severity : Severity

namespace CheckResult

variable {α : Type}

def toValue (r : CheckResult α) : Value α :=
  .record [("constraintId", .text r.constraintId), ("passed", .bool r.passed),
    ("message", r.message), ("severity", .text r.severity.name)]

/-- A failure as it is listed among the errors or warnings of a run. -/
def line [Scalar α] (r : CheckResult α) : String := r.constraintId ++ ": " ++ r.message.plain

end CheckResult

end Dungeon
