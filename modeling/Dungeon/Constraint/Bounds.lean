import Dungeon.Constraint.Basic

/-!
# Bounds

The range of numbers that a constraint allows. Both ends belong to it, the lower end is 0 when it is
not given, and there may be no upper end.
-/

namespace Dungeon

structure Bounds (α : Type) where
  low : α
  high : Option α := none

namespace Bounds

variable {τ α : Type} [Scalar α]

omit [Scalar α] in
/-- An end must be a number. -/
def readEnd (name : String) (v : Value α) : Except Fault (Number α) :=
  match v with
  | .num n => .ok n
  | v => .error (.quoting [v] (.boundShape name v.quoted))

/-- The ends as they are given. -/
def readEnds (c : Constraint τ α) : Except Fault (Number α × Option (Number α)) := do
  let low ← match c.parameters.named? "min" with
    | some v => readEnd "min" v
    | none => pure (.real 0.0)
  let high ← match c.parameters.named? "max" with
    | some v => some <$> readEnd "max" v
    | none => pure none
  return (low, high)

/-- The bounds of a constraint; the lower end must not exceed the upper one. -/
def read (c : Constraint τ α) : Except Fault (Bounds α) := do
  match ← readEnds c with
  | (low, none) => return { low := ← low.toScalar }
  | (low, some high) =>
    if high.lt low then throw (.quoting [.num low, .num high] (.boundOrder low.text high.text))
    return { low := ← low.toScalar, high := some (← high.toScalar) }

/-- Is the number within the bounds? -/
def contain (b : Bounds α) (n : Number α) : Bool :=
  (Number.real b.low).le n &&
    match b.high with
    | some high => n.le (.real high)
    | none => true

/-- An upper end that is infinite is written like one that is missing. -/
def highText : Option α → String
  | none => "inf"
  | some x => if Scalar.isFinite x || Scalar.isUndefined x then Scalar.briefText x else "inf"

def text (b : Bounds α) : String :=
  "[" ++ Scalar.briefText b.low ++ ", " ++ highText b.high ++ "]"

end Bounds

end Dungeon
