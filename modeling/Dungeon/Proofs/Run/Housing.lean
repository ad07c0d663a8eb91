import Dungeon.Proofs.Run.Growth
import Dungeon.Proofs.Work.Housing

/-!
# Everything lies where it belongs

With exact numbers a run leaves a layout in which every entity and every spawn point is inside its
room, the player starts inside the start room, exits are in the middle of their rooms, and doors are in
the walls of the rooms that they lead to. The bounds of the draws that decide it are always in order.
-/

namespace Dungeon

open Exact

variable {σ α : Type} [Scalar α] [Exact α]

namespace Layout

/-- The room with this id is there, and its bounds have the property. -/
def At (l : Layout α) (id : String) (P : Rect α → Prop) : Prop :=
  ∃ r, l.room? id = some r ∧ P r.bounds

/-- Everything in the layout lies where it belongs. -/
structure Housed (l : Layout α) : Prop where
  entities : ∀ r ∈ l.rooms, ∀ e ∈ r.entities, r.bounds.contains e.position = true
  spawnPoints : ∀ p ∈ l.spawnPoints, l.At p.roomId fun b => b.contains p.position = true
  start : ∀ id, l.startRoom = some id → l.At id fun b => b.contains l.playerStart = true
  exits : ∀ x ∈ l.exits, l.At x.roomId fun b => x.position = b.center
  fromDoors : ∀ c ∈ l.connections, l.At c.fromRoom fun b => b.OnEdge c.fromDoor
  toDoors : ∀ c ∈ l.connections, l.At c.toRoom fun b => b.OnEdge c.toDoor

end Layout

namespace Draft

variable {d : Draft α}

omit [Exact α] in
theorem At.toLayout {id : String} {P : Rect α → Prop} (h : d.At id P) : d.toLayout.At id P := by
  obtain ⟨b, there, holds⟩ := h
  obtain ⟨r, found, rfl⟩ := boundsOf_eq_ok.1 there
  exact ⟨r, found, holds⟩

omit [Scalar α] [Exact α] in
/-- A placed room is found by its id, since no other room has it. -/
theorem Rooted.room?_eq (rooted : d.Rooted) {r : Room α} (member : r ∈ d.rooms) :
    d.room? r.id = some r := by
  obtain ⟨s, found⟩ : ∃ s, d.room? r.id = some s :=
    Option.isSome_iff_exists.1 (List.find?_isSome.2 ⟨r, member, beq_self_eq_true r.id⟩)
  have same : s.id = r.id := by simpa using List.find?_some found
  have there := List.mem_of_find?_eq_some found
  rw [found, List.inj_on_of_nodup_map rooted.rooms.distinct there member same]

/-- The player starts inside the start room. -/
theorem Housed.contains_playerStart (h : d.Housed) (rooted : d.Rooted) {id : String}
    (first : d.startRoom = some id) : d.At id fun b => b.contains d.playerStart = true := by
  have room : id ∈ d.ids := List.mem_of_head? (rooted.start.symm.trans first)
  obtain ⟨r, member, rfl⟩ := List.mem_map.1 room
  have found := rooted.room?_eq member
  refine ⟨r.bounds, boundsOf_eq_ok.2 ⟨r, found, rfl⟩, ?_⟩
  have place : d.playerStart = d.startIn r.bounds := by
    rw [playerStart, first, Option.bind_some, found]
  rw [place]
  exact contains_startIn h.start (h.rooms r member)

theorem Housed.toLayout (h : d.Housed) (rooted : d.Rooted) : d.toLayout.Housed where
  entities := by
    intro r member e inside
    obtain ⟨b, there, contains⟩ := h.entities r member e inside
    obtain ⟨s, found, rfl⟩ := boundsOf_eq_ok.1 there
    cases (rooted.room?_eq member).symm.trans found
    exact contains
  spawnPoints := fun p member => (h.spawnPoints p member).toLayout
  start := fun _ first => (h.contains_playerStart rooted first).toLayout
  exits := fun x member => (h.exits x member).toLayout
  fromDoors := fun c member => (h.fromDoors c member).toLayout
  toDoors := fun c member => (h.toDoors c member).toLayout

end Draft

variable [Source σ α]

/-- Points, doors and the sides of rooms are drawn from every stream: bounds are never reversed. -/
structure Placement.Total (σ : Type) [Source σ α] : Prop where
  point (bounds : Rect α) (padding : α) (s : σ) : ∃ p t, pointInRoom bounds padding s = .ok p t
  near (bounds : Rect α) (radius padding : α) (s : σ) :
    ∃ p t, pointNearCentre bounds radius padding s = .ok p t
  doors (a b : Rect α) (s : σ) : ∃ doors t, facingDoors a b s = .ok doors t
  sides (j : Job α) (plan : RoomPlan α) (site site' : Site σ α) (p : CheckedPlan α) :
    j.checkedPlan plan site = .ok p site' → ∀ s : σ,
      (∃ width t, Draw.between p.size.low.w p.size.high.w s = .ok width t) ∧
      ∃ height t, Draw.between p.size.low.h p.size.high.h s = .ok height t

theorem Placement.total (fractions : Source.Fractions (α := α) σ) : Placement.Total (α := α) σ where
  point bounds padding := (gives_pointInRoom fractions bounds padding).returns
  near bounds radius padding := (gives_pointNearCentre fractions bounds radius padding).returns
  doors a b := (gives_facingDoors fractions a b).returns
  sides j plan site site' p checked s := by
    obtain ⟨_, _, ⟨_, kept⟩, _⟩ := j.asks_checkedPlan (d := site.draft) plan checked
    have sound := SizeRange.sound_of_problems kept.sizes
    constructor
    · exact (Draw.gives_between fractions sound.width.2).returns s
    · exact (Draw.gives_between fractions sound.height.2).returns s

namespace Run

variable {input : Input σ α} {past : List (Execution α)} {r : Run α}

/-- In every state of a run everything lies where it belongs. -/
theorem Reaches.housed (closed : input.plan.Closed) (fractions : Source.Fractions (α := α) σ)
    (reached : Reaches input past r) : r.draft.Housed :=
  reached.keeps closed .empty fun _ _ _ piece => piece.housed fractions

/-- When the run of an accepted graph returns, everything in its layout lies where it belongs, and the
draws for it never fail. -/
theorem layout_housed {g : Graph α} {found : Graph.Report} (valid : g.ensureValid = .ok found)
    (retries : Value α) (parameters : Bindings α) (stream : String → σ) (host : Host)
    (fractions : Source.Fractions (α := α) σ) :
    Placement.Total (α := α) σ ∧ ∃ plan, Plan.ofValid g retries = .ok plan ∧
      ∀ report, execute (⟨plan, parameters, stream, host⟩ : Input σ α) = .ok report →
        report.layout.Housed := by
  have sound := Graph.sound_of_ensureValid valid
  refine ⟨Placement.total fractions, _, Graph.Sound.plan_of_ensureValid retries valid, ?_⟩
  intro report ran
  obtain ⟨past, r, reached, _, rfl⟩ := reaches_of_execute (sound.closed retries) ran
  obtain ⟨parts, grown⟩ := reached.grown (sound.closed retries)
  exact (reached.housed (sound.closed retries) fractions).toLayout grown.rooted

end Run

/-- Draws that go round in quarters. -/
structure Wheel where
  turn : Nat

instance : Source Wheel ℚ where
  unit w := ((w.turn % 4 : Nat) / 4, ⟨w.turn + 1⟩)
  upTo n w := (w.turn % (n + 1), ⟨w.turn + 1⟩)

theorem Wheel.fractions : Source.Fractions Wheel := by
  intro w
  have quarters : w.turn % 4 < 4 := Nat.mod_lt _ (by omega)
  have below : ((w.turn % 4 : Nat) : ℚ) < 4 := by exact_mod_cast quarters
  show 0 ≤ ((w.turn % 4 : Nat) : ℚ) / 4 ∧ ((w.turn % 4 : Nat) : ℚ) / 4 < 1
  constructor
  · positivity
  · linarith

namespace Alley

/-- Props and spawn points in an alley narrower than the walls want it, and behind it a yard. -/
def graph : Graph ℚ where
  nodes := [
    node "start" (.start { spawnArea := .proper .random }) [] ["out"],
    node "alley" (.room { plan := plan 0.5 3 }) ["in"] ["out"],
    node "crates" (.prop {}) ["in"] [],
    node "guards" (.spawnPoint { radius := .real 0.0 }) ["in"] [],
    node "yard" (.room { plan := plan 2 4 }) ["in"] ["out"],
    node "exit" (.output {}) ["in"] []]
  edges := [
    { id := "enter", source := ⟨"start", "out"⟩, target := ⟨"alley", "in"⟩ },
    { id := "furnish", source := ⟨"alley", "out"⟩, target := ⟨"crates", "in"⟩ },
    { id := "guard", source := ⟨"alley", "out"⟩, target := ⟨"guards", "in"⟩ },
    { id := "pass", source := ⟨"alley", "out"⟩, target := ⟨"yard", "in"⟩ },
    { id := "leave", source := ⟨"yard", "out"⟩, target := ⟨"exit", "in"⟩ }]
where
  node (id : String) (data : NodeData ℚ) (inputs outputs : List String) : Node ℚ :=
    { id, data, position := ⟨.whole 0, .whole 0⟩
      inputs := inputs.map fun id => { id, side := .input }
      outputs := outputs.map fun id => { id, side := .output } }
  plan (width height : ℚ) : RoomPlan ℚ :=
    { size := .proper ⟨⟨width, height⟩, ⟨width + 1, height + 1⟩⟩ }

def input : Run.Input Wheel ℚ where
  plan := ⟨graph, .int 10⟩
  parameters := []
  stream := fun id => ⟨id.length⟩

end Alley

namespace Run

theorem layout_housed_alley : ∃ report, execute Alley.input = .ok report ∧ report.layout.Housed ∧
    report.layout.rooms.map Room.id = ["alley", "yard"] := by
  obtain ⟨found, valid⟩ : ∃ found, Alley.graph.ensureValid = .ok found := ⟨_, rfl⟩
  have facts : (execute Alley.input).toOption.map (fun report => report.layout.rooms.map Room.id) =
      some ["alley", "yard"] := by decide +kernel
  obtain ⟨report, ran, rooms⟩ := except_toOption_map_eq_some.1 facts
  obtain ⟨_, plan, made, housed⟩ := layout_housed valid Alley.input.plan.retries
    Alley.input.parameters Alley.input.stream Alley.input.host Wheel.fractions
  cases made.symm.trans (Graph.Sound.plan_of_ensureValid _ valid)
  exact ⟨report, ran, housed report ran, rooms⟩

end Run

end Dungeon
