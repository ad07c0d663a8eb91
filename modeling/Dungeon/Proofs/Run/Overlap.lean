import Dungeon.Proofs.Run.Growth
import Dungeon.Proofs.Work.Overlap

/-!
# What a run warns of

A run warns of the rooms that overlap and of nothing else. Every state of a run has a draft that is
flagged, so the report names, room by room, those that intersect a room placed before them.
-/

namespace Dungeon

variable {σ α : Type} [Scalar α] [Source σ α]

/-- The report warns of the rooms that intersect an earlier room, in the order in which rooms were
placed. These rooms are marked, and a room without a warning intersects none that is earlier. -/
structure RunReport.Warned (retries : Int) (report : RunReport α) : Prop where
  warnings : report.warnings =
    (Room.overlapping report.layout.rooms).map (Room.overlapWarning retries)
  sources : ∀ r ∈ report.layout.rooms, ∃ id, r.source = some id
  marked : ∀ r ∈ Room.overlapping report.layout.rooms,
    r.metadata.named? "overlap" = some (.bool true)
  free : ∀ i r, report.layout.rooms[i]? = some r → r.overlapWarning retries ∉ report.warnings →
    ∀ s ∈ report.layout.rooms.take i, r.bounds.intersects s.bounds = false

namespace Run

variable {input : Input σ α} {past : List (Execution α)} {r : Run α}

/-- Every state that a run comes to has a draft that is flagged. -/
theorem Reaches.flagged (closed : input.plan.Closed) {retries : Int}
    (given : input.plan.retries = .int retries) (reached : Reaches input past r) :
    r.draft.Flagged retries :=
  reached.keeps closed (.empty retries) fun _ _ _ piece => piece.flagged given

/-- The warnings of a run of an accepted graph are exact, for every whole number of retries. -/
theorem warnings_exact {g : Graph α} {found : Graph.Report} (valid : g.ensureValid = .ok found)
    (retries : Int) (parameters : Bindings α) (stream : String → σ) (host : Host) :
    ∃ plan, Plan.ofValid g (.int retries) = .ok plan ∧
      ∀ report, execute (⟨plan, parameters, stream, host⟩ : Input σ α) = .ok report →
        report.Warned retries := by
  have sound := Graph.sound_of_ensureValid valid
  refine ⟨_, Graph.Sound.plan_of_ensureValid (.int retries) valid, fun report ran => ?_⟩
  obtain ⟨past, r, reached, _, rfl⟩ := reaches_of_execute (sound.closed (.int retries)) ran
  have flagged := reached.flagged (sound.closed (.int retries)) rfl
  refine ⟨flagged.warnings, flagged.sources, flagged.marked, ?_⟩
  intro i s place unwarned t earlier
  by_contra intersects
  have meets : s.meets (r.draft.rooms.take i) = true :=
    List.any_eq_true.2 ⟨t, earlier, by simpa using intersects⟩
  have overlaps := Room.mem_overlapping place meets
  refine unwarned ?_
  show s.overlapWarning retries ∈ r.draft.warnings
  rw [flagged.warnings]
  exact List.mem_map_of_mem overlaps

end Run

namespace Crowd

open Run.Gate.graph (node)

/-- Two small cells on the same side of a small hall. -/
def graph : Graph Float where
  nodes := [
    node "start" (.start {}) [] ["out"],
    node "hall" (.room { plan }) ["in"] ["out"],
    node "left" (.room { plan }) ["in"] ["out"],
    node "right" (.room { plan }) ["in"] ["out"],
    node "exit" (.output {}) ["in"] []]
  edges := [
    { id := "enter", source := ⟨"start", "out"⟩, target := ⟨"hall", "in"⟩ },
    { id := "leave", source := ⟨"hall", "out"⟩, target := ⟨"exit", "in"⟩ },
    { id := "left", source := ⟨"hall", "out"⟩, target := ⟨"left", "in"⟩ },
    { id := "right", source := ⟨"hall", "out"⟩, target := ⟨"right", "in"⟩ }]
where
  plan : RoomPlan Float := { size := .proper ⟨⟨1.0, 1.0⟩, ⟨2.0, 2.0⟩⟩ }

/-- A run in which all nodes draw alike and no place is tried again. -/
def input : Run.Input Random.Stream Float where
  plan := ⟨graph, .int 0⟩
  parameters := []
  stream := fun _ => .ofSeed 7

end Crowd

namespace Run

/-- The second cell lands on the first one. -/
theorem warnings_exact_crowd :
    (∃ found, Crowd.graph.ensureValid = .ok found) ∧
      ∃ report, execute Crowd.input = .ok report ∧ report.Warned 0 ∧
        report.warnings = ["right: room 'right' overlaps after 0 retries"] := by
  obtain ⟨found, valid⟩ : ∃ found, Crowd.graph.ensureValid = .ok found := ⟨_, rfl⟩
  have facts : (execute Crowd.input).toOption.map RunReport.warnings =
      some ["right: room 'right' overlaps after 0 retries"] := by decide +kernel
  cases ran : execute Crowd.input with
  | error f =>
    rw [ran] at facts
    cases facts
  | ok report =>
    rw [ran] at facts
    obtain ⟨plan, made, warned⟩ :=
      warnings_exact valid 0 Crowd.input.parameters Crowd.input.stream Crowd.input.host
    cases made.symm.trans (Graph.Sound.plan_of_ensureValid _ valid)
    exact ⟨⟨found, valid⟩, report, rfl, warned report ran, Option.some.inj facts⟩

end Run

end Dungeon
