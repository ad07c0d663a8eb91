import Dungeon.Proofs.RoomGraph
import Dungeon.Proofs.Run.Growth

/-!
# Layouts are connected

The layout of a run is rooted: connections lead to later rooms, and to each room but the first at least
one. So every room is reached from the start room, along connections taken one way, and what looks for
ways through the layout finds them: each room is connected, and each exit has a shortest path.
-/

namespace Dungeon

variable {σ τ α : Type}

namespace Layout

variable {l : Layout α} {directed : Bool}

/-- Connections lead to later rooms, none twice and to every room but the first, which is the start
room. -/
structure Rooted (l : Layout α) : Prop where
  rooms : Dungeon.Rooted (l.rooms.map Room.id) (l.connections.map Connection.way)
  start : l.startRoom = (l.rooms.map Room.id).head?

namespace Rooted

variable (h : l.Rooted)
include h

theorem start_mem {start : String} (first : l.startRoom = some start) :
    start ∈ l.rooms.map Room.id := List.mem_of_head? (h.start.symm.trans first)

/-- Every room is reached from the start, also when connections are taken one way only. -/
theorem leads_to {start id : String} (first : l.startRoom = some start)
    (room : id ∈ l.rooms.map Room.id) : Relation.ReflTransGen (l.Joins directed) start id := by
  have along (a b : String) (way : (a, b) ∈ l.connections.map Connection.way) :
      l.Joins directed a b := by
    obtain ⟨c, member, same⟩ := List.mem_map.1 way
    exact ⟨c, member, .inl same⟩
  exact Relation.ReflTransGen.mono along _ _ (h.rooms.reached (h.start.symm.trans first) room)

theorem path_to {start id : String} (first : l.startRoom = some start)
    (room : id ∈ l.rooms.map Room.id) :
    ∃ path, (l.ways true).shortestPath start id = some path := by
  have key : (l.ways true).contains start = true := contains_ways_iff.2 (.inl (h.start_mem first))
  rw [Adjacency.exists_shortestPath_iff key, leads_ways]
  exact h.leads_to first room

theorem passed_checkConnected : (Constraint.checkConnected l).passed = true := by
  cases rooms : l.rooms with
  | nil => simp [Constraint.checkConnected, rooms, Verdict.pass]
  | cons r rest =>
    have first : l.startRoom = some r.id := by rw [h.start, rooms]; rfl
    refine (Constraint.passed_checkConnected_iff first (h.start_mem first)).2 fun x member => ?_
    exact h.leads_to first (List.mem_map_of_mem member)

end Rooted

end Layout

namespace Constraint

variable [Scalar α]

/-- When there is a path to each exit, only levels along one of the paths can fail the check. -/
theorem checkLevels_of_checkExits {l : Layout α} {key start : String} {exits : List String}
    (paths : ∀ id ∈ exits, ∃ path, (l.ways true).shortestPath start id = some path)
    {v : Verdict α} (checked : checkExits l key start exits = .ok v) (failed : v.passed = false) :
    ∃ id ∈ exits, ∃ path, (l.ways true).shortestPath start id = some path ∧
      checkLevels l key none path = .ok v := by
  induction exits with
  | nil =>
    cases checked
    cases failed
  | cons id rest ih =>
    obtain ⟨path, found⟩ := paths id List.mem_cons_self
    rw [checkExits, found] at checked
    cases levels : checkLevels l key none path with
    | error f =>
      simp only [levels] at checked
      cases checked
    | ok u =>
      simp only [levels, bind, Except.bind] at checked
      split at checked
      · obtain ⟨id', member, later⟩ :=
          ih (fun x member => paths x (List.mem_cons_of_mem _ member)) checked
        exact ⟨id', List.mem_cons_of_mem _ member, later⟩
      · cases checked
        exact ⟨id, List.mem_cons_self, path, found, levels⟩

/-- A progression check of a rooted layout with exits in its rooms fails for want of a start room, or
because a level drops on a shortest path to an exit. -/
theorem checkLevels_of_checkProgression {l : Layout α} (rooted : l.Rooted)
    (exits : ∀ x ∈ l.exits, x.roomId ∈ l.rooms.map Room.id) {c : Constraint τ α} {v : Verdict α}
    (checked : c.checkProgression l = .ok v) (failed : v.passed = false) :
    l.startRoom = none ∨ ∃ start, l.startRoom = some start ∧ ∃ x ∈ l.exits, ∃ path,
      (l.ways true).shortestPath start x.roomId = some path ∧
        checkLevels l (Value.fieldOr c.parameters "key" (.text "difficulty")).plain none path =
          .ok v := by
  unfold checkProgression at checked
  obtain ⟨key, told, checked⟩ := except_bind_eq_ok.1 checked
  obtain ⟨_, rfl⟩ := writing_eq_ok.1 told
  cases first : l.startRoom with
  | none => exact .inl rfl
  | some start =>
    rw [first] at checked
    have room {id : String} (member : id ∈ l.exitRooms) : ∃ x ∈ l.exits, x.roomId = id :=
      List.mem_map.1 (List.mem_eraseDups.1 (mem_sortedTexts.1 member))
    have paths : ∀ id ∈ l.exitRooms, ∃ path, (l.ways true).shortestPath start id = some path := by
      intro id member
      obtain ⟨x, exit, rfl⟩ := room member
      exact rooted.path_to first (exits x exit)
    obtain ⟨id, member, path, found, levels⟩ := checkLevels_of_checkExits paths checked failed
    obtain ⟨x, exit, rfl⟩ := room member
    exact .inr ⟨start, rfl, x, exit, path, found, levels⟩

end Constraint

namespace Run

variable [Scalar α] [Source σ α]

/-- When the run of an accepted graph returns, its layout is rooted: connections lead to later rooms,
none twice and to every room but the first, which is the start room. So every room is reached from the
start room, the layout passes as connected, and a progression check finds a path to each exit. -/
theorem layout_rooted {g : Graph α} {found : Graph.Report} (valid : g.ensureValid = .ok found)
    (retries : Value α) (parameters : Bindings α) (stream : String → σ) (host : Host) :
    ∃ plan, Plan.ofValid g retries = .ok plan ∧
      ∀ report, execute (⟨plan, parameters, stream, host⟩ : Input σ α) = .ok report →
        report.layout.Rooted ∧
        (∀ start, report.layout.startRoom = some start → ∀ r ∈ report.layout.rooms,
          Relation.ReflTransGen (fun a b => (a, b) ∈ report.layout.connections.map Connection.way)
            start r.id) ∧
        (∀ (τ : Type) (registry : Constraint.Registry τ α) (c : Constraint τ α) (t : τ),
          c.type = .connected → ∃ result,
            Constraint.evaluate registry report.layout c t = .ok result t ∧ result.passed = true) ∧
        ∀ (τ : Type) (c : Constraint τ α) (v : Verdict α),
          c.checkProgression report.layout = .ok v → v.passed = false →
            report.layout.startRoom = none ∨ ∃ start, report.layout.startRoom = some start ∧
              ∃ x ∈ report.layout.exits, ∃ path,
                (report.layout.ways true).shortestPath start x.roomId = some path ∧
                  Constraint.checkLevels report.layout
                    (Value.fieldOr c.parameters "key" (.text "difficulty")).plain none path =
                      .ok v := by
  have sound := Graph.sound_of_ensureValid valid
  refine ⟨_, Graph.Sound.plan_of_ensureValid retries valid, fun report ran => ?_⟩
  obtain ⟨past, r, reached, _, rfl⟩ := reaches_of_execute (sound.closed retries) ran
  obtain ⟨parts, grown⟩ := reached.grown (sound.closed retries)
  have rooted : r.toReport.layout.Rooted := ⟨grown.rooted.rooms, grown.rooted.start⟩
  refine ⟨rooted, fun start first x member => ?_, fun τ registry c t connected => ?_,
    fun τ c v checked failed => ?_⟩
  · exact rooted.rooms.reached (rooted.start.symm.trans first) (List.mem_map_of_mem member)
  · obtain ⟨result, evaluated, passed⟩ :=
      Constraint.evaluate_connected registry r.toReport.layout connected t
    exact ⟨result, evaluated, passed.trans rooted.passed_checkConnected⟩
  · exact Constraint.checkLevels_of_checkProgression rooted grown.sums.exitRooms checked failed

theorem layout_rooted_vault : ∃ report, execute Vault.input = .ok report ∧
    report.layout.Rooted ∧ report.layout.startRoom = some "hall_0" ∧
    Relation.ReflTransGen (fun a b => (a, b) ∈ report.layout.connections.map Connection.way)
      "hall_0" "hall_1" := by
  obtain ⟨found, valid⟩ := Vault.valid
  obtain ⟨report, ran, rooms, _⟩ := Vault.returns
  obtain ⟨plan, made, layout⟩ :=
    layout_rooted valid Vault.input.plan.retries Vault.input.parameters Vault.input.stream Vault.input.host
  cases made.symm.trans (Graph.Sound.plan_of_ensureValid _ valid)
  obtain ⟨rooted, reached, _⟩ := layout report ran
  have first : report.layout.startRoom = some "hall_0" := by rw [rooted.start, rooms]; rfl
  have second : "hall_1" ∈ report.layout.rooms.map Room.id := by simp [rooms]
  obtain ⟨r, member, named⟩ := List.mem_map.1 second
  exact ⟨report, ran, rooted, first, named ▸ reached "hall_0" first r member⟩

end Run

end Dungeon
