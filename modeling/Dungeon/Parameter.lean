import Dungeon.Conversion
import Dungeon.Graph.NodeData

/-!
# Parameters

Declared parameters, and their values for a run: defaults, then overrides, each checked against its
declaration. Two names, `minRoomSize` and `maxRoomSize`, set the sizes of all rooms.
-/

namespace Dungeon

inductive ParameterType
  | string
  | number
  | boolean
  | select
  deriving DecidableEq

def ParameterType.all : List ParameterType := [.string, .number, .boolean, .select]

def ParameterType.name : ParameterType → String
  | string => "string"
  | number => "number"
  | boolean => "boolean"
  | select => "select"

structure Parameter (α : Type) where
  name : String
  type : ParameterType := .number
  default : Value α := .null
  low : Value α := .null
  high : Value α := .null
  options : List (Value α) := []
  description : String := ""

/-- The values of the parameters of a run. -/
abbrev Bindings (α : Type) := Fields α

variable {α : Type} [Scalar α]

namespace Parameter

open Value

def read (v : Value α) : Except Fault (Parameter α) := do
  let ps ← v.members "get"
  let given ← (fieldOr ps "type" (.text "number")).toText
  match ParameterType.all.find? fun t => t.name == given with
  | none =>
    let name := field ps "name"
    throw (.quoting [name] (.unknownParameterType name.plain (Text.quote given)))
  | some type =>
    let name ← (← require ps "name").toText
    let options ← (field ps "options").partsOrNone
    let description ← (fieldOr ps "description" (.text "")).toText
    return {
      name, type, default := field ps "default", low := field ps "min", high := field ps "max"
      options, description }

omit [Scalar α] in
def toValue (p : Parameter α) : Value α :=
  .record [("name", .text p.name), ("type", .text p.type.name), ("default", p.default),
    ("min", p.low), ("max", p.high), ("options", .list p.options),
    ("description", .text p.description)]

/-- Raise a number to the lower bound and lower it to the upper bound. -/
def clamp (p : Parameter α) (v : Value α) : Except Fault (Value α) := do
  let below ← if p.low.isNull then pure false else Value.compare .lt v p.low
  let v := if below then p.low else v
  let above ← if p.high.isNull then pure false else Value.compare .gt v p.high
  return if above then p.high else v

/-- Check a value against the declaration. -/
def coerce (p : Parameter α) (v : Value α) : Except Fault (Value α) :=
  match p.type with
  | .number =>
    match v with
    | .num _ => p.clamp v
    | v => .error (.quoting [v] (.parameterShape p.name "a number" v.quoted))
  | .boolean =>
    match v with
    | .bool _ => .ok v
    | v => .error (.quoting [v] (.parameterShape p.name "true/false" v.quoted))
  | .select =>
    if p.options.any fun w => Value.eq v w then .ok v
    else
      .error (.quoting (v :: p.options)
        (.parameterOption p.name (Value.list p.options).quoted v.quoted))
  | .string => .text <$> v.toText

end Parameter

def minRoomSize : String := "minRoomSize"

def maxRoomSize : String := "maxRoomSize"

namespace Bindings

open Value

/-- A bound that is not set is null. -/
def bound (b : Bindings α) (name : String) : Value α := field b name

/-- A room size must be a positive number. -/
def checkSize (name : String) (v : Value α) : Except Fault Unit :=
  match v with
  | .null => .ok ()
  | .num n => if n.le (.whole 0) then .error (.quoting [v] (.roomSize name v.quoted)) else .ok ()
  | v => .error (.quoting [v] (.roomSize name v.quoted))

/-- The two room sizes must be in order. -/
def checkSizes (b : Bindings α) : Except Fault Unit := do
  let low := bound b minRoomSize
  let high := bound b maxRoomSize
  checkSize minRoomSize low
  checkSize maxRoomSize high
  if !low.isNull && !high.isNull then
    if ← Value.compare .gt low high then
      throw (.quoting [low, high] (.roomSizeOrder low.plain high.plain))

/-- The declared defaults. -/
def defaults (declared : List (Parameter α)) : Except Fault (Bindings α) :=
  declared.foldlM (fun b p => do
    if p.default.isNull then return b
    return Fields.insert b (.text p.name) (← p.coerce p.default)) []

/-- The last declaration of a name counts. -/
def declaration? (declared : List (Parameter α)) (name : Value α) : Option (Parameter α) :=
  declared.reverse.find? fun p => Value.eq name (.text p.name)

/-- Check and bind the overrides in turn; a name without a declaration takes any value. -/
def override (declared : List (Parameter α)) (b : Bindings α)
    (overrides : Fields α) : Except Fault (Bindings α) :=
  overrides.foldlM (fun b (name, v) => do
    match declaration? declared name with
    | some p => return Fields.insert b name (← p.coerce v)
    | none => return Fields.insert b name v) b

/-- The values of a run. Names of different kinds cannot be listed in order, which is noticed
last. -/
def resolve (declared : List (Parameter α)) (overrides : Fields α) :
    Except Fault (Bindings α) := do
  let b ← override declared (← defaults declared) overrides
  checkSizes b
  checkOrder (b.map Prod.fst)
  return b

/-- A size range with the room sizes that are set in place of its own. -/
def sizeRange (b : Bindings α) (r : SizeRange α) : Except Fault (SizeRange α) := do
  let corner (name : String) (own : Size α) : Except Fault (Size α) :=
    match bound b name with
    | .null => .ok own
    | v => do
      let x ← v.toReal
      return ⟨x, x⟩
  let low ← corner minRoomSize r.low
  let high ← corner maxRoomSize r.high
  return ⟨low, high⟩

end Bindings

end Dungeon
