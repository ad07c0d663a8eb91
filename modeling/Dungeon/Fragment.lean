import Dungeon.Fault

/-!
# Fragments

What flows along an edge: where the next room attaches, where it grows to, the variables set on the
way and the paths taken. Fragments that meet at a merge join into one.
-/

namespace Dungeon

/-- A heading on the screen, where `y` grows downwards. -/
inductive Direction
  | right
  | down
  | left
  | up
  deriving DecidableEq

namespace Direction

def all : List Direction := [right, down, left, up]

def name : Direction → String
  | right => "RIGHT"
  | down => "DOWN"
  | left => "LEFT"
  | up => "UP"

def dx : Direction → Int
  | right => 1
  | left => -1
  | _ => 0

def dy : Direction → Int
  | down => 1
  | up => -1
  | _ => 0

def turnLeft : Direction → Direction
  | right => up
  | up => left
  | left => down
  | down => right

def turnRight : Direction → Direction
  | right => down
  | down => left
  | left => up
  | up => right

@[simp] theorem turnLeft_turnRight (d : Direction) : d.turnRight.turnLeft = d := by cases d <;> rfl

/-- The heading of the path with a given index; a fifth path takes the first heading again. -/
def ofPath (i : Nat) : Direction :=
  match i % 4 with
  | 0 => right
  | 1 => down
  | 2 => left
  | _ => up

end Direction

/-- One choice of a path: at which node, which path, and its weight. -/
structure PathStep (α : Type) where
  nodeId : String
  index : Int
  weight : α
  /-- Where the step was made; it tells steps of undefined weight apart. -/
  origin : Nat := 0

def PathStep.same {α : Type} [Scalar α] (s t : PathStep α) : Bool :=
  s.nodeId == t.nodeId && s.index == t.index &&
    (Scalar.eq s.weight t.weight ||
      (Scalar.isUndefined s.weight && Scalar.isUndefined t.weight && s.origin == t.origin))

structure Cursor (α : Type) where
  x : α
  y : α

structure Fragment (α : Type) where
  /-- The room that the next room attaches to. -/
  anchor : Option String := none
  /-- The rooms that met at a merge, the anchor first. -/
  joined : List String := []
  /-- Where the next room grows from when there is no anchor. -/
  cursor : Cursor α
  direction : Direction := .right
  /-- How far the next room is moved sideways. -/
  lateral : α
  vars : Fields α := []
  path : List (PathStep α) := []

namespace Fragment

variable {α : Type} [Scalar α]

/-- The fragment that leaves the start. -/
def empty : Fragment α := { cursor := ⟨0.0, 0.0⟩, lateral := 0.0 }

omit [Scalar α] in
/-- The rooms that the next room is connected to. -/
def anchors (f : Fragment α) : List String :=
  if f.joined.isEmpty then f.anchor.toList else f.joined

/-- Go on from a room; the offset of a branch has been used up. -/
def atRoom (f : Fragment α) (roomId : String) (cursor : Cursor α) : Fragment α :=
  { f with anchor := some roomId, joined := [], cursor, lateral := 0.0 }

omit [Scalar α] in
def heading (f : Fragment α) (direction : Direction) (lateral : α) : Fragment α :=
  { f with direction, lateral }

def withVariable (f : Fragment α) (name v : Value α) : Fragment α :=
  { f with vars := f.vars.insert name v }

omit [Scalar α] in
def follow (f : Fragment α) (s : PathStep α) : Fragment α := { f with path := f.path ++ [s] }

/-- Add the steps that are not there yet. -/
def addSteps (path steps : List (PathStep α)) : List (PathStep α) :=
  steps.foldl (fun path s => if path.any s.same then path else path ++ [s]) path

/-- Join at least two fragments; the first one gives cursor and heading. -/
def join (first : Fragment α) (rest : List (Fragment α)) : Fragment α :=
  let all := first :: rest
  let joined := (all.flatMap anchors).eraseDups
  { anchor := joined.head?
    joined
    cursor := first.cursor
    direction := first.direction
    lateral := 0.0
    vars := all.foldl (fun fields f => fields.extend f.vars) []
    path := all.foldl (fun path f => addSteps path f.path) [] }

/-- Join the fragments that arrive at a merge, in the order of its ports. A single fragment stays as
it is. -/
def merge : List (Fragment α) → Except Fault (Fragment α)
  | [] => .error .nothingToMerge
  | [f] => .ok f
  | f :: g :: rest => .ok (join f (g :: rest))

end Fragment

end Dungeon
