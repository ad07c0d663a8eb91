import Dungeon.Proofs.Run.Overlap
import Dungeon.Proofs.Work.Retrying

/-!
# Runs with other retries

How often another place is tried for a room changes geometry alone. Two runs that differ in it show
the same sketch after each node: they run the same nodes, settle the same edges and place the same
rooms with the same content, and as long as no chain branches they connect the same rooms.
-/

namespace Dungeon

variable {σ α : Type} [Scalar α]

/-- The same plan with another number of retries. -/
def Plan.trying (p : Plan α) (retries : Value α) : Plan α := { p with retries }

def Arrival.unplaced (a : Arrival α) : Arrival α := { a with fragment := a.fragment.unplaced }

def Progress.unplaced (g : Progress α) : Progress α :=
  { g with arrivals := g.arrivals.map Arrival.unplaced }

/-- What is the same after a map shows all that the map does not change. -/
theorem map_eq_of_blind {β γ : Type} {f : β → γ} {g : β → β} {xs ys : List β}
    (same : xs.map g = ys.map g) (blind : ∀ x, f (g x) = f x) : xs.map f = ys.map f := by
  have seen (xs : List β) : xs.map f = (xs.map g).map f := by
    rw [List.map_map]
    exact List.map_congr_left fun x _ => (blind x).symm
  rw [seen, same, ← seen]

/-- The reports differ in geometry alone, as far as the rooms and what is in them go. -/
structure RunReport.SameStructure (a b : RunReport α) : Prop where
  states : a.states = b.states
  data : a.data = b.data
  startRoom : a.layout.startRoom = b.layout.startRoom
  rooms : a.layout.rooms.map (fun r => (r.id, r.type, r.tags, r.source)) =
    b.layout.rooms.map fun r => (r.id, r.type, r.tags, r.source)
  entities :
    a.layout.rooms.map (fun r => r.entities.map fun e => (e.id, e.type, e.metadata)) =
      b.layout.rooms.map fun r => r.entities.map fun e => (e.id, e.type, e.metadata)
  spawnPoints : a.layout.spawnPoints.map (fun s => (s.id, s.type, s.roomId)) =
    b.layout.spawnPoints.map fun s => (s.id, s.type, s.roomId)
  exits : a.layout.exits.map (fun x => (x.roomId, x.type, x.requiresKey, x.nodeId)) =
    b.layout.exits.map fun x => (x.roomId, x.type, x.requiresKey, x.nodeId)

namespace Run

/-- The state without places and all that comes from them. -/
def sketch (ways : Bool) (r : Run α) : Run α :=
  { r with progress := r.progress.map Progress.unplaced, draft := r.draft.sketch ways }

def unplacedDelivery (d : Delivery α) : Delivery α := (d.1, d.2.map Fragment.unplaced)

/-- A state with the deliveries that follow, in a sketch. -/
def sketchNext (ways : Bool) (x : Run α × List (Delivery α)) : Run α × List (Delivery α) :=
  (x.1.sketch ways, x.2.map unplacedDelivery)

variable {ways : Bool} {p : Plan α}

theorem find?_sketch (r : Run α) (id : String) :
    (r.sketch ways).progress.find? id = (r.progress.find? id).map Progress.unplaced :=
  Table.find?_map _ _ _

theorem state?_sketch (r : Run α) (id : String) : (r.sketch ways).state? id = r.state? id := by
  rw [state?, find?_sketch, Option.map_map]
  rfl

/-- A change that goes by what a sketch shows. -/
theorem sketch_update (r : Run α) (id : String) {f f' : Progress α → Progress α}
    (blind : ∀ g, (f g).unplaced = f' g.unplaced) :
    (r.update id f).sketch ways = (r.sketch ways).update id f' := by
  unfold update
  rw [find?_sketch]
  cases r.progress.find? id with
  | none => rfl
  | some g =>
    have entered : (r.progress.insert id (f g)).map Progress.unplaced =
        (r.progress.map Progress.unplaced).insert id (f' g.unplaced) := by
      rw [Table.map_insert, blind]
    simp only [sketch, entered, Option.map_some]

theorem sketch_setState (r : Run α) (id : String) (state : NodeState) :
    (r.setState id state).sketch ways = (r.sketch ways).setState id state :=
  r.sketch_update id fun _ => rfl

theorem incoming_sketch (r : Run α) (id : String) :
    (r.sketch ways).incoming id = (r.incoming id).map Fragment.unplaced := by
  unfold incoming
  rw [find?_sketch]
  cases r.progress.find? id with
  | none => rfl
  | some g =>
    have kept (a b : Arrival α) : a.before b = a.unplaced.before b.unplaced := rfl
    have sorted := map_sortBy kept g.arrivals
    simp only [Option.map_some, Progress.unplaced, ← sorted, List.map_map]
    rfl

theorem next?_sketch (r : Run α) : (r.sketch ways).next? = r.next? := by
  have ready : ((r.sketch ways).progress.entries.filter fun e => e.2.state = .ready).map Prod.fst =
      (r.progress.entries.filter fun e => e.2.state = .ready).map Prod.fst := by
    simp only [sketch, Table.map, List.filter_map, List.map_map]
    rfl
  rw [next?, ready, next?]

theorem prune_sketch (r : Run α) (id : String) :
    (r.sketch ways).prune p id = sketchNext ways (r.prune p id) := by
  simp only [prune, sketchNext, ← sketch_setState, List.map_map]
  rfl

theorem complete_sketch (r : Run α) (id : String) :
    (r.sketch ways).complete p id = sketchNext ways (r.complete p id) := by
  unfold complete
  rw [find?_sketch]
  cases r.progress.find? id with
  | none => rfl
  | some g =>
    simp only [Option.map_some, Progress.unplaced, List.isEmpty_map, prune_sketch,
      ← sketch_setState]
    split
    · split <;> rfl
    · rfl

theorem fire_sketch (r : Run α) (e : Edge α) :
    (r.sketch ways).fire p e = (r.fire p e).sketch ways := by
  simp only [fire, ← sketch_setState]
  rfl

theorem arrive_sketch (r : Run α) (e : Edge α) (f : Fragment α) :
    (r.sketch ways).arrive p e f.unplaced = sketch ways <$> r.arrive p e f := by
  unfold arrive
  cases p.inputIndex? e.target with
  | none => rfl
  | some port =>
    refine congrArg Except.ok (r.sketch_update _ fun g => ?_).symm
    simp [Progress.unplaced, Arrival.unplaced]

theorem settle_sketch (r : Run α) (d : Delivery α) :
    (r.sketch ways).settle p (unplacedDelivery d) = sketchNext ways <$> r.settle p d := by
  obtain ⟨e, f⟩ := d
  have counted : (r.sketch ways).update e.target.node
      (fun g => { g with unsettled := g.unsettled - 1 }) =
        (r.update e.target.node fun g => { g with unsettled := g.unsettled - 1 }).sketch ways := by
    refine (r.sketch_update _ ?_).symm
    intro g
    rfl
  unfold settle unplacedDelivery
  dsimp only
  rw [counted, state?_sketch]
  generalize r.update e.target.node (fun g => { g with unsettled := g.unsettled - 1 }) = r
  split
  · rfl
  · cases f with
    | none => exact congrArg Except.ok (complete_sketch _ _)
    | some f =>
      dsimp only [Option.map_some]
      rw [arrive_sketch]
      cases r.arrive p e f with
      | error fault => rfl
      | ok arrived =>
        simp only [Functor.map, Except.map, bind, Except.bind]
        split
        · rw [fire_sketch]
          rfl
        · rw [complete_sketch]
          rfl

theorem settleEach_sketch {cascade : List (Delivery α) → Run α → Except Fault (Run α)}
    (nested : ∀ ds r, cascade (ds.map unplacedDelivery) (r.sketch ways) = sketch ways <$> cascade ds r)
    (ds : List (Delivery α)) (r : Run α) :
    settleEach p cascade (ds.map unplacedDelivery) (r.sketch ways) =
      sketch ways <$> settleEach p cascade ds r := by
  induction ds generalizing r with
  | nil => rfl
  | cons d rest ih =>
    rw [List.map_cons, settleEach, settleEach, settle_sketch]
    cases r.settle p d with
    | error fault => rfl
    | ok out =>
      obtain ⟨next, more⟩ := out
      show (if r.pruned.length < next.pruned.length then _ else _) = _ <$> ite _ _ _
      split
      · show (cascade (more.map unplacedDelivery) (next.sketch ways) >>= _) = _
        rw [nested]
        cases cascade more next with
        | error fault => rfl
        | ok later => exact ih later
      · exact ih next

theorem settleAll_sketch (nesting : Nat) (ds : List (Delivery α)) (r : Run α) :
    settleAll p nesting (ds.map unplacedDelivery) (r.sketch ways) =
      sketch ways <$> settleAll p nesting ds r := by
  induction nesting generalizing ds r with
  | zero => exact settleEach_sketch (fun _ _ => rfl) ds r
  | succ nesting ih => exact settleEach_sketch ih ds r

theorem deliveries_unplaced (id : String) (out : Outcome α) :
    deliveries p id out.unplaced = (deliveries p id out).map unplacedDelivery := by
  unfold deliveries
  rw [List.map_map]
  refine List.map_congr_left fun e _ => Prod.ext rfl ?_
  show (out.unplaced.find? e.source.port).join =
    (out.find? e.source.port).join.map Fragment.unplaced
  rw [Outcome.unplaced, Table.find?_map]
  cases out.find? e.source.port <;> rfl

theorem sketch_of_settleAll {nesting : Nat} {ds ds' : List (Delivery α)} {r r' s s' : Run α}
    (same : r.sketch ways = r'.sketch ways)
    (work : ds.map unplacedDelivery = ds'.map unplacedDelivery)
    (left : settleAll p nesting ds r = .ok s) (right : settleAll p nesting ds' r' = .ok s') :
    s.sketch ways = s'.sketch ways := by
  have settled : (sketch ways <$> settleAll p nesting ds r : Except Fault (Run α)) =
      sketch ways <$> settleAll p nesting ds' r' := by
    rw [← settleAll_sketch, ← settleAll_sketch, same, work]
  rw [left, right] at settled
  exact Except.ok.inj settled

omit [Scalar α] in
theorem settleEach_trying (retries : Value α)
    (cascade : List (Delivery α) → Run α → Except Fault (Run α)) (ds : List (Delivery α)) (r : Run α) :
    settleEach (p.trying retries) cascade ds r = settleEach p cascade ds r := by
  induction ds generalizing r with
  | nil => rfl
  | cons d rest ih =>
    rw [settleEach, settleEach]
    exact bind_congr fun next => by simp only [ih]

omit [Scalar α] in
theorem settleAll_trying (retries : Value α) (nesting : Nat) (ds : List (Delivery α)) (r : Run α) :
    settleAll (p.trying retries) nesting ds r = settleAll p nesting ds r := by
  induction nesting generalizing ds r with
  | zero => exact settleEach_trying retries _ ds r
  | succ nesting ih =>
    have below : settleAll (p.trying retries) nesting = settleAll p nesting :=
      funext fun ds => funext fun r => ih ds r
    rw [settleAll, below]
    exact settleEach_trying retries _ ds r

variable [Source σ α]

/-- The same input with another number of retries. -/
def Input.trying (input : Input σ α) (retries : Value α) : Input σ α :=
  { input with plan := input.plan.trying retries }

section
variable {input : Input σ α} {retries : Value α} {r r' s s' : Run α}

omit [Source σ α] in
theorem sketch_work (r : Run α) (id : String) (draft : Draft α) :
    ({ r.setState id .done with draft, executions := r.executions + 1 } : Run α).sketch ways =
      { (r.sketch ways).setState id .done with
        draft := draft.sketch ways, executions := (r.sketch ways).executions + 1 } := by
  rw [← sketch_setState]
  rfl

theorem perform_sketch {n : Node α} {out out' : Outcome α} (linear : ways = true → n.Linear)
    (same : r.sketch ways = r'.sketch ways) (left : perform input r n = .ok (s, out))
    (right : perform (input.trying retries) r' n = .ok (s', out')) :
    s.sketch ways = s'.sketch ways ∧ out.Agrees out' := by
  obtain ⟨site, worked, rfl⟩ := perform_eq_ok left
  obtain ⟨site', worked', rfl⟩ := perform_eq_ok right
  have drafts : r.draft.sketch ways = r'.draft.sketch ways := congrArg Run.draft same
  have arrived : (r.incoming n.id).map Fragment.unplaced =
      (r'.incoming n.id).map Fragment.unplaced := by
    rw [← r.incoming_sketch, same, incoming_sketch]
  obtain ⟨outs, drafts, _⟩ :=
    (input.job n).parallel_perform arrived retries linear drafts rfl worked worked'
  refine ⟨?_, outs⟩
  rw [sketch_work, sketch_work, same, drafts]

theorem advance_sketch {id : String} (linear : ways = true → ∀ n ∈ input.plan.graph.nodes, n.Linear)
    (same : r.sketch ways = r'.sketch ways) (left : advance input r id = .ok s)
    (right : advance (input.trying retries) r' id = .ok s') :
    s.sketch ways = s'.sketch ways := by
  cases node : input.plan.graph.node? id with
  | none =>
    obtain rfl := Except.ok.inj ((advance_none node).symm.trans left)
    have missing : (input.trying retries).plan.graph.node? id = none := node
    obtain rfl := Except.ok.inj ((advance_none missing).symm.trans right)
    exact same
  | some n =>
    have node' : (input.trying retries).plan.graph.node? id = some n := node
    obtain ⟨t, out, performed, settled⟩ := advance_eq_ok node left
    obtain ⟨t', out', performed', settled'⟩ := advance_eq_ok node' right
    have executing : (r.setState id .executing).sketch ways =
        (r'.setState id .executing).sketch ways := by
      rw [sketch_setState, sketch_setState, same]
    have member : n ∈ input.plan.graph.nodes := (Graph.mem_of_node? node).1
    obtain ⟨states, outs⟩ :=
      perform_sketch (fun drawn => linear drawn n member) executing performed performed'
    have settled' : settleAll input.plan input.host.nesting
        (deliveries input.plan id out') t' = .ok s' :=
      (settleAll_trying retries _ _ _).symm.trans settled'
    refine sketch_of_settleAll states ?_ settled settled'
    show (deliveries input.plan id out).map unplacedDelivery =
      (deliveries input.plan id out').map unplacedDelivery
    rw [← deliveries_unplaced, outs, deliveries_unplaced]

/-- Both runs take the same nodes in the same order. -/
theorem loop_sketch (linear : ways = true → ∀ n ∈ input.plan.graph.nodes, n.Linear) {limit : Nat}
    (same : r.sketch ways = r'.sketch ways) (left : loop input limit r = .ok s)
    (right : loop (input.trying retries) limit r' = .ok s') :
    s.sketch ways = s'.sketch ways := by
  induction limit generalizing r r' with
  | zero =>
    cases left
    cases right
    exact same
  | succ limit ih =>
    have next : r'.next? = r.next? := by rw [← r.next?_sketch, same, next?_sketch]
    rw [loop] at left right
    rw [next] at right
    cases ready : r.next? with
    | none =>
      rw [ready] at left right
      cases left
      cases right
      exact same
    | some id =>
      rw [ready] at left right
      obtain ⟨t, advanced, left⟩ := except_bind_eq_ok.1 left
      obtain ⟨t', advanced', right⟩ := except_bind_eq_ok.1 right
      exact ih (advance_sketch linear same advanced advanced') left right

end

omit [Source σ α] in
/-- What a report says but geometry is seen in the sketch of the last state. -/
theorem sameStructure_of_sketch {r s : Run α} (same : r.sketch ways = s.sketch ways) :
    r.toReport.SameStructure s.toReport := by
  have drafts : r.draft.sketch ways = s.draft.sketch ways := congrArg Run.draft same
  have rooms : r.draft.rooms.map Room.sketch = s.draft.rooms.map Room.sketch :=
    congrArg Draft.rooms drafts
  have spawnPoints : r.draft.spawnPoints.map SpawnPoint.sketch =
      s.draft.spawnPoints.map SpawnPoint.sketch := congrArg Draft.spawnPoints drafts
  have exits : r.draft.exits.map Exit.sketch = s.draft.exits.map Exit.sketch :=
    congrArg Draft.exits drafts
  have entities (r : Room α) : (r.sketch.entities.map fun e => (e.id, e.type, e.metadata)) =
      r.entities.map fun e => (e.id, e.type, e.metadata) := by
    rw [Room.sketch, List.map_map]
    rfl
  have states (r : Run α) : r.toReport.states = (r.sketch ways).toReport.states := by
    simp [toReport, sketch, Table.map, Function.comp_def, Progress.unplaced]
  exact {
    states := by rw [states, same, ← states]
    data := (congrArg (RunReport.data ∘ toReport) same :)
    startRoom := Draft.startRoom_of_sketch drafts
    rooms := map_eq_of_blind rooms fun _ => rfl
    entities := map_eq_of_blind rooms entities
    spawnPoints := map_eq_of_blind spawnPoints fun _ => rfl
    exits := map_eq_of_blind exits fun _ => rfl }

omit [Source σ α] in
theorem ways_of_sketch {r s : Run α} (same : r.sketch true = s.sketch true) :
    r.toReport.layout.connections.map Connection.way =
      s.toReport.layout.connections.map Connection.way := by
  have drafts : r.draft.sketch true = s.draft.sketch true := congrArg Run.draft same
  have connections : r.draft.connections.map Connection.sketch =
      s.draft.connections.map Connection.sketch := congrArg Draft.connections drafts
  exact map_eq_of_blind connections fun _ => rfl

/-- The number of retries decides geometry alone, and in graphs without branching chains it leaves
all connections as they are. -/
theorem execute_retried {g : Graph α} {found : Graph.Report} (valid : g.ensureValid = .ok found)
    (m n : Value α) (parameters : Bindings α) (stream : String → σ) (host : Host) :
    ∃ plan plan', Plan.ofValid g m = .ok plan ∧ Plan.ofValid g n = .ok plan' ∧
      ∀ report report', execute (⟨plan, parameters, stream, host⟩ : Input σ α) = .ok report →
        execute (⟨plan', parameters, stream, host⟩ : Input σ α) = .ok report' →
          report.SameStructure report' ∧
            ((∀ node ∈ g.nodes, node.Linear) →
              report.layout.connections.map Connection.way =
                report'.layout.connections.map Connection.way) := by
  refine ⟨_, _, Graph.Sound.plan_of_ensureValid m valid,
    Graph.Sound.plan_of_ensureValid n valid, ?_⟩
  intro report report' ran ran'
  obtain ⟨r, looped, reported⟩ := except_bind_eq_ok.1 ran
  obtain ⟨r', looped', reported'⟩ := except_bind_eq_ok.1 ran'
  cases reported
  cases reported'
  have looped' : loop ((⟨⟨g, m⟩, parameters, stream, host⟩ : Input σ α).trying n) g.nodeIds.length
      (initial ⟨g, m⟩) = .ok r' := looped'
  have sketches (ways : Bool) (linear : ways = true → ∀ node ∈ g.nodes, node.Linear) :
      r.sketch ways = r'.sketch ways := loop_sketch linear rfl looped looped'
  refine ⟨sameStructure_of_sketch (sketches false (by simp)), fun linear => ?_⟩
  exact ways_of_sketch (sketches true fun _ => linear)

/-- With ten retries the second cell finds a place of its own, and nothing else changes. -/
theorem execute_retried_crowd :
    (∃ found, Crowd.graph.ensureValid = .ok found) ∧ ∃ report report',
      execute Crowd.input = .ok report ∧ execute (Crowd.input.trying (.int 10)) = .ok report' ∧
        report.SameStructure report' ∧
        report.layout.connections.map Connection.way =
          report'.layout.connections.map Connection.way ∧
        report.warnings = ["right: room 'right' overlaps after 0 retries"] ∧
        report'.warnings = [] := by
  obtain ⟨found, valid⟩ : ∃ found, Crowd.graph.ensureValid = .ok found := ⟨_, rfl⟩
  obtain ⟨plan, plan', made, made', agree⟩ := execute_retried valid (.int 0) (.int 10)
    Crowd.input.parameters Crowd.input.stream Crowd.input.host
  cases made.symm.trans (Graph.Sound.plan_of_ensureValid _ valid)
  cases made'.symm.trans (Graph.Sound.plan_of_ensureValid _ valid)
  have crowded : (execute Crowd.input).toOption.map RunReport.warnings =
      some ["right: room 'right' overlaps after 0 retries"] := by decide +kernel
  have roomy : (execute (Crowd.input.trying (.int 10))).toOption.map RunReport.warnings =
      some [] := by decide +kernel
  have kinds : ∀ node ∈ Crowd.graph.nodes, node.kind ≠ .roomChain := by decide
  have linear : ∀ node ∈ Crowd.graph.nodes, node.Linear := by
    intro node member data chain
    exact absurd (congrArg NodeData.kind chain) (kinds node member)
  cases ran : execute Crowd.input with
  | error f =>
    rw [ran] at crowded
    cases crowded
  | ok report =>
    cases ran' : execute (Crowd.input.trying (.int 10)) with
    | error f =>
      rw [ran'] at roomy
      cases roomy
    | ok report' =>
      rw [ran] at crowded
      rw [ran'] at roomy
      obtain ⟨kept, ways⟩ := agree report report' ran ran'
      exact ⟨⟨found, valid⟩, report, report', rfl, rfl, kept, ways linear,
        Option.some.inj crowded, Option.some.inj roomy⟩

end Run

end Dungeon
