import Dungeon.Work.Basic

/-!
# Room nodes

A room node places one room and a chain node several. The first room of a node attaches to the
room that the fragment comes from; a room that comes from nowhere is a root.
-/

namespace Dungeon

variable {σ α : Type} [Scalar α] [Source σ α]

/-- A plan whose rooms have known sizes and numbers of doors. -/
structure CheckedPlan (α : Type) where
  size : SizeRange α
  shapes : Setting (List RoomShape) α
  doors : CountRange
  type : Value α
  tags : Value α

/-- How a room is attached. -/
structure Attachment (α : Type) where
  anchor : Option String
  direction : Direction
  lateral : α

namespace Job

omit [Source σ α] in
/-- Are there shapes to choose from? -/
def hasShapes : Setting (List RoomShape) α → Bool
  | .proper shapes => !shapes.isEmpty
  | .foreign v => v.truthy

omit [Source σ α] in
/-- The plan with the room sizes of the run, unless no room can satisfy it. -/
def checkedPlan (j : Job α) (p : RoomPlan α) : Work σ α (CheckedPlan α) := do
  let own ← Work.lift (p.size.require "problems")
  let size ← Work.lift (j.parameters.sizeRange own)
  let doors ← Work.lift (p.doors.require "problems")
  let noShapes := if hasShapes p.shapes then [] else ["no room shapes configured"]
  j.failWith (size.problems ++ (← Work.lift (doors.told (doors.problems "doorCount"))) ++ noShapes)
  return { size, doors, shapes := p.shapes, type := p.type, tags := p.tags }

omit [Source σ α] in
/-- The data of a room: the variables of the fragment, then what was drawn for the room. -/
def roomMetadata (vars : Metadata α) (shape : String) (doors : Int) (overlapped : Bool) :
    Metadata α :=
  let m := (vars.insert (.text "shape") (.text shape)).insert (.text "doorCount") (.int doors)
  if overlapped then m.insert (.text "overlap") (.bool true) else m

/-- Choose a shape; a value in its place is chosen among the same way, but is no shape. -/
def chooseShape : Setting (List RoomShape) α → Work σ α (Except Fault String)
  | .proper shapes => do return .ok (← Work.draw (Draw.choose shapes)).name
  | .foreign v => do
    let n ← Work.lift v.length
    let i ← Work.draw (Draw.integer 0 (n - 1 : Nat))
    match v with
    | .object _ => throw (.missingKey (toString i))
    | v =>
      let chosen := ((v.parts?.getD [])[i.toNat]?).getD .null
      return .error (.noMember chosen.typeName "value")

/-- Draw a room's size, shape and doors, find a place for it and put it there. -/
def buildRoom (j : Job α) (roomId : String) (p : CheckedPlan α) (f : Fragment α)
    (a : Attachment α) : Work σ α Unit := do
  let width ← Work.draw (Draw.between p.size.low.w p.size.high.w)
  let height ← Work.draw (Draw.between p.size.low.h p.size.high.h)
  let shape ← chooseShape p.shapes
  let doors ← Work.draw (Draw.integer p.doors.low p.doors.high)
  let ref ← match a.anchor with
    | some id => Work.boundsOf id
    | none => pure ⟨f.cursor.x, f.cursor.y, 0.0, 0.0⟩
  let placed := (← Work.draft).placed
  let (bounds, overlapped) ← Work.draw
    (Placement.placeBounds ref a.direction a.lateral width height placed j.retries)
  let shape ← Work.lift shape
  if overlapped then
    let retries ← Work.lift j.retries.toText
    Work.write fun d => d.warn j.node.id
      ("room '" ++ roomId ++ "' overlaps after " ++ retries ++ " retries")
  let room : Room α := {
    id := roomId, type := p.type, bounds
    metadata := roomMetadata f.vars shape doors overlapped, source := some j.node.id }
  Work.tryWrite fun d => d.addTagged room p.tags a.anchor.isNone

omit [Scalar α] [Source σ α] in
/-- The rooms that a new room is connected to. A root room hangs off the start room, unless it is
the start room. -/
def parents (d : Draft α) (anchors : List String) (roomId : String) : List String :=
  if anchors.isEmpty then (d.startRoom.filter (· != roomId)).toList else anchors

/-- Connect a room to each of the others. -/
def connectRoom (roomId : String) (bounds : Rect α) : List String → Work σ α Unit
  | [] => pure ()
  | other :: rest => do
    let otherBounds ← Work.boundsOf other
    let (fromDoor, toDoor) ← Work.draw (Placement.facingDoors otherBounds bounds)
    Work.write fun d => d.connect ⟨other, roomId, fromDoor, toDoor⟩
    connectRoom roomId bounds rest

def connectRooms (anchors : List String) (roomId : String) : Work σ α Unit := do
  let others := parents (← Work.draft) anchors roomId
  connectRoom roomId (← Work.boundsOf roomId) others

omit [Source σ α] in
/-- The fragment goes on from a room. -/
def continueFrom (f : Fragment α) (roomId : String) : Work σ α (Fragment α) := do
  let bounds ← Work.boundsOf roomId
  return f.atRoom roomId (Placement.trailingCursor bounds f.direction)

def room (j : Job α) (d : RoomData α) (incoming : List (Fragment α)) :
    Work σ α (Outcome α) := do
  let p ← j.checkedPlan d.plan
  let f ← j.single incoming
  let roomId := j.node.id
  j.buildRoom roomId p f ⟨f.anchor, f.direction, f.lateral⟩
  connectRooms f.anchors roomId
  return j.everywhere (← continueFrom f roomId)

/-- How the next room of a chain is attached, when rooms were placed before. -/
def nextAttachment (style : ConnectionStyle) (forward : Direction) (placed : List String)
    (last : String) : Work σ α (String × Attachment α) :=
  match style with
  | .branching => do
    let anchor ← Work.draw (Draw.choose placed)
    let direction ← Work.draw (Draw.choose [forward, forward.turnLeft, forward.turnRight])
    return (anchor, ⟨some anchor, direction, 0.0⟩)
  | .linear => pure (last, ⟨some last, forward, 0.0⟩)

/-- The rooms of a chain after the ones in `placed`, of which `last` came last. -/
def laterRooms (j : Job α) (d : RoomChainData α) (p : CheckedPlan α) (f : Fragment α)
    (placed : List String) (last : String) : List String → Work σ α String
  | [] => pure last
  | roomId :: rest => do
    let (anchor, a) ← nextAttachment (d.style.getD .linear) f.direction placed last
    j.buildRoom roomId p f a
    connectRooms [anchor] roomId
    laterRooms j d p f (placed ++ [roomId]) roomId rest

def roomChain (j : Job α) (d : RoomChainData α) (incoming : List (Fragment α)) :
    Work σ α (Outcome α) := do
  let p ← j.checkedPlan d.plan
  let f ← j.single incoming
  let n ← j.count d.count "countRange"
  match Placement.roomIds j.node.id n with
  | [] => return j.everywhere f
  | first :: rest =>
    j.buildRoom first p f ⟨f.anchor, f.direction, f.lateral⟩
    connectRooms f.anchors first
    let last ← laterRooms j d p f [first] first rest
    return j.everywhere (← continueFrom f last)

end Job

end Dungeon
