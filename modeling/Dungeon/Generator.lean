import Dungeon.Constraint.Basic
import Dungeon.Graph.Reader
import Dungeon.Parameter

/-!
# Generators

A generator is a graph with the constraints on its layouts and the parameters of its runs. A project
file holds one generator, or several under the name `generators`.
-/

namespace Dungeon

structure Generator (τ α : Type) where
  id : String := "generator"
  name : String := "Generator"
  description : String := ""
  graph : Graph α
  constraints : List (Constraint τ α) := []
  parameters : List (Parameter α) := []
  /-- What the file says besides. -/
  extra : Fields α := []

namespace Generator

variable {τ α : Type} [Scalar α]

open Value

/-- The names that have a meaning in the file of a generator. -/
def knownNames : List String :=
  ["id", "name", "description", "graph", "constraints", "parameters", "nodes", "edges", "groups"]

omit [Scalar α] in
/-- The graph of a generator; it may also stand among the generator's own fields. -/
def graphField (ps : Fields α) : Value α :=
  match field ps "graph" with
  | .null =>
    .record (["nodes", "edges", "groups"].map fun name => (name, fieldOr ps name (.list [])))
  | g => g

/-- The generator that an object holds. Constraints and parameters are read before the graph. -/
def read (v : Value α) : Except Fault (Generator τ α) := do
  let ps ← v.members "get"
  let constraints ← (← (field ps "constraints").partsOrNone).mapM Constraint.read
  let parameters ← (← (field ps "parameters").partsOrNone).mapM Parameter.read
  let graph ← Graph.read (graphField ps)
  let id ← (fieldOr ps "id" (.text "generator")).toText
  let name ← (fieldOr ps "name" (fieldOr ps "id" (.text "Generator"))).toText
  let description ← (fieldOr ps "description" (.text "")).toText
  return {
    id, name, description, graph, constraints, parameters
    extra := ps.filter fun p => !(p.1.text?.any knownNames.contains) }

/-- The first of several generators. -/
def first : Value α → Except Fault (Value α)
  | .list (v :: _) => .ok v
  | .list [] => .error .indexRange
  | .text s => .ok (.text (String.ofList (s.toList.take 1)))
  | .object ps =>
    match Fields.find? ps (.int 0) with
    | some v => .ok v
    | none => .error (.missingKey "0")
  | v => .error (.notIndexable v.typeName)

/-- The first generator with an id. -/
def withId (path id : String) (generators : Value α) : Except Fault (Value α) := do
  let named ← (← generators.parts).filterM fun g => do
    return Value.eq (field (← g.members "get") "id") (.text id)
  match named with
  | g :: _ => return g
  | [] => throw (.noGenerator path id)

/-- The part of a file that holds the generator; the id matters where there are several. -/
def choose (path : String) (id : Option String) (v : Value α) : Except Fault (Value α) :=
  match v with
  | .object ps =>
    match field ps "generators" with
    | .null => .ok v
    | generators =>
      if generators.truthy then
        match id with
        | none => first generators
        | some id => withId path id generators
      else .error (.noGenerators path)
  | _ => .error (.notMapping path)

end Generator

end Dungeon
