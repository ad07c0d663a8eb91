import Dungeon.Proofs.Run.Growth
import Dungeon.Proofs.Work.Stamping
import Dungeon.Proofs.Work.Variables

/-!
# Whom the data of rooms come from

Every room of a run has its data from one execution: the variables that came to the node, over them the
shape and the number of doors that were drawn for the room, and the mark of a room that intersects an
earlier one. The mark is set and never taken away, so a distribution that sets a variable of its name is
all that can forge it.
-/

namespace Dungeon

variable {σ α : Type} [Scalar α] [Source σ α]

/-- The data are these variables, with the shape and the number of doors over them and with a mark over
them when the room intersects one of those before it. -/
structure Room.Shows (vars : Metadata α) (shape : RoomShape) (doors : Int) (before : List (Room α))
    (r : Room α) : Prop where
  shape : r.metadata.named? "shape" = some (.text shape.name)
  doors : r.metadata.named? "doorCount" = some (.int doors)
  overlap : r.metadata.named? "overlap" =
    if r.meets before then some (.bool true) else vars.named? "overlap"
  others : ∀ name, name ≠ "shape" → name ≠ "doorCount" → name ≠ "overlap" →
    r.metadata.named? name = vars.named? name

omit [Source σ α] in
theorem Room.shows_of_metadata {vars : Metadata α} {shape : RoomShape} {doors : Int}
    {before : List (Room α)} {r : Room α}
    (data : r.metadata = Job.roomMetadata vars shape.name doors (r.meets before)) :
    r.Shows vars shape doors before := by
  obtain ⟨named, numbered⟩ := Job.named?_roomMetadata vars shape.name doors (r.meets before)
  refine ⟨data ▸ named, data ▸ numbered, ?_, fun name not_shape not_doors not_overlap => ?_⟩
  · rw [data, Job.roomMetadata]
    split <;> simp [Fields.named?_insert]
  · rw [data, Job.roomMetadata]
    split <;>
      simp [Fields.named?_insert, not_shape.symm, not_doors.symm, not_overlap.symm]

namespace Run

variable {input : Input σ α} {past : List (Execution α)} {r : Run α}

/-- One of the executions was of a distribution that sets the variable to this value. -/
def WasSet (input : Input σ α) (past : List (Execution α)) (name : String) (v : Value α) : Prop :=
  ∃ x ∈ past, ∃ n, input.plan.graph.node? x.id = some n ∧ n.Sets name v

omit [Scalar α] [Source σ α] in
theorem WasSet.append {name : String} {v : Value α} (set : WasSet input past name v)
    (later : List (Execution α)) : WasSet input (past ++ later) name v := by
  obtain ⟨x, member, n, node, sets⟩ := set
  exact ⟨x, List.mem_append_left later member, n, node, sets⟩

/-- One of the executions placed the room when these were the rooms. The variables that it stamped the room
with came to the node, and distributions that ran earlier had set them. -/
def Made (input : Input σ α) (past : List (Execution α)) (before : List (Room α)) (r : Room α) : Prop :=
  ∃ earlier x later n plan p f, past = earlier ++ x :: later ∧
    input.plan.graph.node? x.id = some n ∧ n.plan? = some plan ∧ p.Keeps plan ∧
    Fragment.merge x.incoming = .ok f ∧ f.SetBy (WasSet input earlier) ∧
    ∃ stream, Source.Later (input.stream n.id) stream ∧ r.Stamped n.id p f.vars stream before

theorem Made.append {before : List (Room α)} {r : Room α} (made : Made input past before r)
    (more : List (Execution α)) : Made input (past ++ more) before r := by
  obtain ⟨earlier, x, later, n, plan, p, f, rfl, rest⟩ := made
  exact ⟨earlier, x, later ++ more, n, plan, p, f, by simp, rest⟩

theorem Made.furnish {before : List (Room α)} {r : Room α} (made : Made input past before r)
    (k : Contribution α) : Made input past (before.map (Room.furnish k)) (r.furnish k) := by
  obtain ⟨earlier, x, later, n, plan, p, f, split, node, plans, keeps, merged, set, s, after, stamp⟩ :=
    made
  exact ⟨earlier, x, later, n, plan, p, f, split, node, plans, keeps, merged, set, s, after,
    stamp.furnish k⟩

/-- All rooms were made by executions, and all variables in flight were set by them. -/
structure Traced (input : Input σ α) (past : List (Execution α)) (r : Run α) : Prop where
  rooms : Room.Each (Made input past) r.draft.rooms
  sent : ∀ s ∈ sent input.plan past, s.2.SetBy (WasSet input past)

omit [Scalar α] [Source σ α] in
/-- A node without a plan for rooms is neither a room node nor a chain node. -/
theorem kind_of_plan?_none {n : Node α} (planless : n.plan? = none) :
    n.kind ≠ .room ∧ n.kind ≠ .roomChain := by
  unfold Node.plan? at planless
  unfold Node.kind
  cases data : n.data with
  | room => simp [data] at planless
  | roomChain => simp [data] at planless
  | _ => exact ⟨nofun, nofun⟩

/-- The work of one node keeps rooms and variables traced. -/
theorem Traced.step {parts : List (Node α × Contribution α)} {log : List (Delivery α)}
    (traced : Traced input past r) (grown : Grown input past r parts)
    (books : Ledger input.plan past log [] r) {n : Node α}
    (node : input.plan.graph.node? n.id = some n) {out : Outcome α} {site : Site σ α}
    (worked : input.work r n = .ok out site) {r' : Run α} (draft : r'.draft = site.draft) :
    Traced input (past ++ [⟨n.id, r.incoming n.id, out⟩]) r' := by
  let x : Execution α := ⟨n.id, r.incoming n.id, out⟩
  have arrived : ∀ f ∈ r.incoming n.id, f.SetBy (WasSet input past) :=
    books.incoming_of_sent traced.sent n.id
  constructor
  · rw [draft]
    have before : Room.Each (Made input (past ++ [x])) r.draft.rooms :=
      traced.rooms.mono fun _ _ made => made.append [x]
    cases plans : n.plan? with
    | some plan =>
      obtain ⟨p, f, keeps, merged, path⟩ := Job.path_perform (j := input.job n) plans worked
      have start : Source.Later (input.stream n.id) (input.stream n.id) := .refl
      refine Job.each_of_path path start ?_ before
      intro rooms room stamped
      exact ⟨past, x, [], n, plan, p, f, rfl, node, plans, keeps, merged,
        Fragment.setBy_merge merged arrived, stamped⟩
    | none =>
      obtain ⟨k, gained, performed, _⟩ := grown.performs books worked
      obtain ⟨no_room, no_chain⟩ := kind_of_plan?_none plans
      obtain ⟨none_added, _⟩ := performed.contributes.unbuilt no_room no_chain
      have furnished : site.draft.rooms = r.draft.rooms.map (Room.furnish k) := by
        rw [gained, Draft.gain, none_added, List.append_nil]
      exact furnished ▸ before.map fun _ _ made => made.furnish k
  · intro s member
    rw [sent_append, sent_singleton] at member
    rcases List.mem_append.1 member with old | new
    · exact (traced.sent s old).mono fun _ _ set => set.append [x]
    · have own : ∀ name v, n.Sets name v → WasSet input (past ++ [x]) name v := fun name v sets =>
        ⟨x, by simp, n, node, sets⟩
      have handed := Job.hands_perform (σ := σ) (j := input.job n)
        (fun f came => (arrived f came).mono fun _ _ set => set.append [x]) own
      exact handed _ _ _ worked s.2 (leaves_of_carried new)

/-- In every state that a run comes to, rooms and variables are traced to executions. -/
theorem Reaches.traced (closed : input.plan.Closed) (reached : Reaches input past r) :
    Traced input past r := by
  induction reached with
  | initial =>
    obtain ⟨t, start, _⟩ := initial_eq input.plan
    refine ⟨?_, by simp⟩
    rw [start]
    exact Room.each_nil
  | @step past r r' r'' id n out reached next node worked settled ih =>
    obtain ⟨parts, grown⟩ := reached.grown closed
    obtain ⟨log, books⟩ := reached.ledger closed
    obtain ⟨g, found, _, _⟩ := books.of_next? closed next
    obtain ⟨_, rfl⟩ := Graph.mem_of_node? node
    obtain ⟨site, done, rfl⟩ := performed found worked
    exact ih.step grown books node done (draft_settleAll settled)

/-- The room was placed by this node, from this fragment and after these executions, and its data are those
of the fragment with what was drawn for the room. They have the mark exactly when the room intersects an
earlier one, and its key besides only as a variable; variables were set by earlier distributions. -/
structure Recorded (input : Input σ α) (earlier : List (Execution α)) (n : Node α) (f : Fragment α)
    (before : List (Room α)) (r : Room α) : Prop where
  source : r.source = some n.id
  drawn : ∃ (plan : RoomPlan α) (p : CheckedPlan α) (s : σ) (shape : RoomShape) (doors : Int),
    n.plan? = some plan ∧ p.Keeps plan ∧ Source.Later (input.stream n.id) s ∧
    p.Draws s r.bounds shape doors ∧ r.Shows f.vars shape doors before
  marked : r.metadata.named? "overlap" = some (.bool true) ↔ r.meets before = true
  key : (r.metadata.named? "overlap").isSome = true ↔
    r.meets before = true ∨ (f.vars.named? "overlap").isSome = true
  set : ∀ name v, f.vars.named? name = some v → WasSet input earlier name v

theorem Made.recorded {before : List (Room α)} {room : Room α} (made : Made input past before room) :
    ∃ earlier x later n f, past = earlier ++ x :: later ∧ input.plan.graph.node? x.id = some n ∧
      Fragment.merge x.incoming = .ok f ∧ Recorded input earlier n f before room := by
  obtain ⟨earlier, x, later, n, plan, p, f, split, node, plans, keeps, merged, set, s, after, stamp⟩ :=
    made
  obtain ⟨shape, doors, draws, data⟩ := stamp.stamp
  have shows := Room.shows_of_metadata data
  have set : ∀ name v, f.vars.named? name = some v → WasSet input earlier name v :=
    fun name v there => set name v (Fields.text_mem_of_named? there)
  refine ⟨earlier, x, later, n, f, split, node, merged, stamp.source,
    ⟨plan, p, s, shape, doors, plans, keeps, after, draws, shows⟩, ?_, ?_, set⟩
  · rw [shows.overlap]
    split
    next meets => simp [meets]
    next free =>
      -- A variable of this name is a number.
      refine ⟨fun forged => ?_, fun meets => absurd meets free⟩
      obtain ⟨_, _, _, _, _, _, _, _, number⟩ := set _ _ forged
      cases number
  · rw [shows.overlap]
    split
    next meets => simp [meets]
    next free => simp [free]

/-- For every accepted graph and whatever is drawn, each room of a run that returns shows the shape and the
number of doors that were drawn for it, right after its sides. It is marked as overlapping exactly when it
intersects a room placed before it. Where no distribution of the graph sets a variable with the name of the
mark, a room that intersects none has no such key either. -/
theorem room_metadata {g : Graph α} {found : Graph.Report} (valid : g.ensureValid = .ok found)
    (retries : Value α) (parameters : Bindings α) (stream : String → σ) (host : Host) :
    ∃ plan, Plan.ofValid g retries = .ok plan ∧ plan.graph = g ∧
      ∀ report, execute (⟨plan, parameters, stream, host⟩ : Input σ α) = .ok report →
        ∃ past r, Reaches (⟨plan, parameters, stream, host⟩ : Input σ α) past r ∧ report = r.toReport ∧
          ∀ i (room : Room α), report.layout.rooms[i]? = some room →
            (∃ earlier x later n f, past = earlier ++ x :: later ∧ g.node? x.id = some n ∧
              Fragment.merge x.incoming = .ok f ∧
              Recorded (⟨plan, parameters, stream, host⟩ : Input σ α) earlier n f
                (report.layout.rooms.take i) room) ∧
            ((∀ m ∈ g.nodes, ∀ v, ¬ m.Sets "overlap" v) →
              ((room.metadata.named? "overlap").isSome = true ↔
                room.meets (report.layout.rooms.take i) = true)) := by
  have sound := Graph.sound_of_ensureValid valid
  refine ⟨_, Graph.Sound.plan_of_ensureValid retries valid, rfl, fun report ran => ?_⟩
  obtain ⟨past, r, reached, _, rfl⟩ := reaches_of_execute (sound.closed retries) ran
  refine ⟨past, r, reached, rfl, fun i room place => ?_⟩
  obtain ⟨earlier, x, later, n, f, split, node, merged, recorded⟩ :=
    ((reached.traced (sound.closed retries)).rooms i room place).recorded
  refine ⟨⟨earlier, x, later, n, f, split, node, merged, recorded⟩, fun unset => ?_⟩
  refine recorded.key.trans (or_iff_left fun there => ?_)
  obtain ⟨v, there⟩ := Option.isSome_iff_exists.1 there
  obtain ⟨_, _, m, node, sets⟩ := recorded.set _ v there
  exact unset m (Graph.mem_of_node? node).1 v sets

end Run

namespace Weather

open Run.Gate.graph (node)

/-- Behind a distribution that sets a variable with the name of the mark lie a hall and, on the same side of
it, two cells. -/
def graph : Graph Float where
  nodes := [
    node "start" (.start {}) [] ["out"],
    node "weather" (.distribution weather) ["in"] ["out"],
    node "hall" (.room { plan }) ["in"] ["out"],
    node "left" (.room { plan }) ["in"] ["out"],
    node "right" (.room { plan }) ["in"] ["out"],
    node "exit" (.output {}) ["in"] []]
  edges := [
    { id := "enter", source := ⟨"start", "out"⟩, target := ⟨"weather", "in"⟩ },
    { id := "on", source := ⟨"weather", "out"⟩, target := ⟨"hall", "in"⟩ },
    { id := "leave", source := ⟨"hall", "out"⟩, target := ⟨"exit", "in"⟩ },
    { id := "left", source := ⟨"hall", "out"⟩, target := ⟨"left", "in"⟩ },
    { id := "right", source := ⟨"hall", "out"⟩, target := ⟨"right", "in"⟩ }]
where
  weather : DistributionData Float := {
    variableName := .text "overlap", low := .real 0.0, high := .real 1.0, power := .real 2.0
    rate := .real 1.0 }
  plan : RoomPlan Float := { size := .proper ⟨⟨1.0, 1.0⟩, ⟨2.0, 2.0⟩⟩ }

/-- A run in which all nodes draw alike and no place is tried again. -/
def input : Run.Input Random.Stream Float where
  plan := ⟨graph, .int 0⟩
  parameters := []
  stream := fun _ => .ofSeed 7

/-- For each room its id, what kind of value it has under the name of the mark, and whether it intersects an
earlier room. -/
def marks (l : Layout Float) : List (String × Option String × Bool) :=
  l.rooms.zipIdx.map fun p =>
    (p.1.id, (p.1.metadata.named? "overlap").map Value.typeName, p.1.meets (l.rooms.take p.2))

theorem valid : ∃ found, graph.ensureValid = .ok found := ⟨_, rfl⟩

theorem returns : ∃ report, Run.execute input = .ok report ∧ marks report.layout =
    [("hall", some "float", false), ("left", some "float", false), ("right", some "bool", true)] := by
  have facts : (Run.execute input).toOption.map (fun report => marks report.layout) = some
      [("hall", some "float", false), ("left", some "float", false), ("right", some "bool", true)] := by
    decide +kernel
  obtain ⟨report, ran, shown⟩ := except_toOption_map_eq_some.1 facts
  exact ⟨report, ran, shown⟩

end Weather

namespace Run

/-- The first two rooms have the variable where the mark would be, and the third one has the mark. -/
theorem room_metadata_weather :
    ∃ report past r, execute Weather.input = .ok report ∧ Reaches Weather.input past r ∧
      Weather.marks report.layout =
        [("hall", some "float", false), ("left", some "float", false), ("right", some "bool", true)] ∧
      ∀ i (room : Room Float), report.layout.rooms[i]? = some room →
        ∃ earlier x later n f, past = earlier ++ x :: later ∧ Weather.graph.node? x.id = some n ∧
          Fragment.merge x.incoming = .ok f ∧
          Recorded Weather.input earlier n f (report.layout.rooms.take i) room := by
  obtain ⟨found, valid⟩ := Weather.valid
  obtain ⟨report, ran, shown⟩ := Weather.returns
  obtain ⟨plan, made, _, told⟩ := room_metadata valid Weather.input.plan.retries
    Weather.input.parameters Weather.input.stream Weather.input.host
  cases made.symm.trans (Graph.Sound.plan_of_ensureValid _ valid)
  obtain ⟨past, r, reached, _, rooms⟩ := told report ran
  exact ⟨report, past, r, ran, reached, shown, fun i room place => (rooms i room place).1⟩

/-- The hall has the key of the mark and intersects no earlier room, for there is none. -/
theorem forged_weather : (∃ found, Weather.graph.ensureValid = .ok found) ∧
    ∃ report hall, execute Weather.input = .ok report ∧ report.layout.rooms[0]? = some hall ∧
      (hall.metadata.named? "overlap").isSome = true ∧
      hall.meets (report.layout.rooms.take 0) = false := by
  obtain ⟨report, ran, shown⟩ := Weather.returns
  refine ⟨Weather.valid, report, ?_⟩
  rw [Weather.marks] at shown
  cases rooms : report.layout.rooms with
  | nil =>
    rw [rooms] at shown
    cases shown
  | cons hall rest =>
    rw [rooms, List.zipIdx_cons, List.map_cons] at shown
    have first := (List.cons.inj shown).1
    have kind : (hall.metadata.named? "overlap").map Value.typeName = some "float" :=
      congrArg (fun p => p.2.1) first
    refine ⟨hall, ran, rfl, ?_, rfl⟩
    rw [← Option.isSome_map (f := Value.typeName), kind]
    rfl

end Run

end Dungeon
