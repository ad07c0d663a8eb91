import Dungeon.Proofs.Run.Delivery
import Dungeon.Proofs.Work.Survival

/-!
# Pruning is liveness

A node is live when it is the start, or when an edge leads to it from a live node through a port that
this node passes its fragment on to. Nothing in this depends on counters, merge strategies, the order
of execution or the placement of rooms, and yet a run ends with the live nodes done and all others
pruned.
-/

namespace Dungeon

variable {σ α : Type} [Scalar α] [Source σ α]

/-- Fragments come to the node. -/
inductive Graph.Live (g : Graph α) (parameters : Bindings α) (stream : String → σ) : String → Prop
  | start {n : Node α} : n ∈ g.nodes → n.kind = .start → g.Live parameters stream n.id
  | edge {e : Edge α} {n : Node α} : e ∈ g.edges → n ∈ g.nodes → e.source.node = n.id →
      g.Live parameters stream n.id → n.Passes parameters (stream n.id) e.source.port →
      g.Live parameters stream e.target.node

namespace Run

variable {g : Graph α} {retries : Value α} {parameters : Bindings α} {stream : String → σ}
  {host : Host}
  {past : List (Execution α)} {log : List (Delivery α)} {r : Run α}

/-- What a trace says of an edge: its source has run and passed its fragment on to the edge. -/
theorem emitted_isSome (sound : g.Sound)
    (reached : Reaches (⟨⟨g, retries⟩, parameters, stream, host⟩ : Input σ α) past r) {e : Edge α}
    (he : e ∈ g.edges) {n : Node α} (node : n ∈ g.nodes) (source : e.source.node = n.id) :
    (emitted past e).isSome ↔
      r.state? n.id = some .done ∧ n.Passes parameters (stream n.id) e.source.port := by
  obtain ⟨log, books⟩ := reached.ledger (sound.closed retries)
  rw [books.done]
  unfold emitted
  cases found : past.find? fun x => x.id == e.source.node with
  | none =>
    have idle : n.id ∉ past.map Execution.id := by
      intro ran
      obtain ⟨x, mem, same⟩ := List.mem_map.1 ran
      have other := List.find?_eq_none.1 found x mem
      simp [same, source] at other
    simp [idle]
  | some x =>
    have mem := List.mem_of_find?_eq_some found
    have same : x.id = n.id := by simpa [source] using List.find?_some found
    obtain ⟨_, _, r₀, m, site, _, _, _, found_m, _, worked⟩ :=
      reached.recorded (sound.closed retries) mem
    obtain ⟨mem_m, named⟩ := Graph.mem_of_node? found_m
    cases sound.node_inj mem_m node (named.trans same)
    obtain ⟨n', found_n, port⟩ := sound.sources e he
    obtain ⟨mem_n, called⟩ := Graph.mem_of_node? found_n
    cases sound.node_inj mem_n node (called.trans source)
    have there : e.source.port ∈ n.outputs.map Port.id := by
      obtain ⟨q, output⟩ := Option.isSome_iff_exists.1 port
      refine List.mem_map.2 ⟨q, List.mem_of_find?_eq_some output, ?_⟩
      simpa using List.find?_some output
    have ran : n.id ∈ past.map Execution.id := same ▸ List.mem_map_of_mem mem
    simp only [ran, true_and, Option.bind_some]
    exact Job.passes_perform worked there

omit [Scalar α] in
/-- Something was sent to a node iff an edge brought something. -/
theorem Ledger.sentTo_eq_nil {p : Plan α} (books : Ledger p past log [] r) {id : String} :
    sentTo log id = [] ↔ ∀ e ∈ p.graph.edges, e.target.node = id → emitted past e = none := by
  have perm := books.sentTo_perm id
  have empty : sentTo log id = [] ↔ (p.entering id).filterMap (along past) = [] :=
    ⟨fun h => (h ▸ perm).symm.eq_nil, fun h => (h ▸ perm).eq_nil⟩
  rw [empty, List.filterMap_eq_nil_iff]
  constructor
  · intro none_along e he target
    have nothing := none_along e (Plan.mem_entering.2 ⟨he, target⟩)
    simpa [along] using nothing
  · intro none_sent e entering
    obtain ⟨he, target⟩ := Plan.mem_entering.1 entering
    simp [along, none_sent e he target]

omit [Scalar α] in
/-- In the end the start is done, and so is each node that an edge brought something to, and no
other. -/
theorem Ledger.done_iff (sound : g.Sound) (books : Ledger ⟨g, retries⟩ past log [] r)
    (rest : r.next? = none) {n : Node α} (node : n ∈ g.nodes) :
    r.state? n.id = some .done ↔
      n.kind = .start ∨ ∃ e ∈ g.edges, e.target.node = n.id ∧ (emitted past e).isSome := by
  constructor
  · intro done
    by_cases kind : n.kind = .start
    · exact .inl kind
    · right
      obtain ⟨state, found, is_done⟩ := Option.map_eq_some_iff.1 done
      have fed := sound.inDegree_ne_zero retries node kind
      have some_sent := books.sentTo_ne_nil found (by simp [is_done]) (by simp [is_done]) fed
      by_contra none_brought
      refine some_sent (books.sentTo_eq_nil.2 fun e he target => ?_)
      by_contra brought
      exact none_brought ⟨e, he, target, Option.ne_none_iff_isSome.1 brought⟩
  · intro live
    refine (books.done_or_pruned sound rest node).resolve_right fun pruned => ?_
    obtain ⟨state, found, is_pruned⟩ := Option.map_eq_some_iff.1 pruned
    obtain ⟨_, fed, unsent⟩ := (books.accounts n.id state found).pruned.1 is_pruned
    rcases live with kind | ⟨e, he, target, brought⟩
    · exact fed ((sound.inDegree_eq_zero_iff_start retries node).2 kind)
    · rw [books.sentTo_eq_nil.1 unsent e he target] at brought
      cases brought

theorem done_of_live (sound : g.Sound)
    (reached : Reaches (⟨⟨g, retries⟩, parameters, stream, host⟩ : Input σ α) past r)
    (rest : r.next? = none) {id : String} (live : g.Live parameters stream id) :
    r.state? id = some .done := by
  obtain ⟨log, books⟩ := reached.ledger (sound.closed retries)
  induction live with
  | start node kind => exact (books.done_iff sound rest node).2 (.inl kind)
  | @edge e n he node source _ passes done =>
    obtain ⟨m, found, _⟩ := sound.targets e he
    obtain ⟨mem, target⟩ := Graph.mem_of_node? found
    rw [← target]
    refine (books.done_iff sound rest mem).2 (.inr ⟨e, he, target.symm, ?_⟩)
    exact (emitted_isSome sound reached he node source).2 ⟨done, passes⟩

theorem live_of_done (sound : g.Sound)
    (reached : Reaches (⟨⟨g, retries⟩, parameters, stream, host⟩ : Input σ α) past r)
    (rest : r.next? = none) {id : String} (done : r.state? id = some .done) :
    g.Live parameters stream id := by
  obtain ⟨log, books⟩ := reached.ledger (sound.closed retries)
  -- A done node that is not the start was brought something by a node that is done as well.
  induction id using sound.acyclic.induction with
  | h id ih =>
    obtain ⟨n, node, rfl⟩ := Graph.mem_nodeIds.1 (books.mem_nodeIds_of_state? done)
    rcases (books.done_iff sound rest node).1 done with kind | ⟨e, he, target, brought⟩
    · exact .start node kind
    · obtain ⟨m, found, _⟩ := sound.sources e he
      obtain ⟨mem, source⟩ := Graph.mem_of_node? found
      obtain ⟨ran, passes⟩ := (emitted_isSome sound reached he mem source.symm).1 brought
      have live := ih m.id ⟨e, he, source.symm, target⟩ ran
      exact target ▸ .edge he mem source.symm live passes

/-- When the run of an accepted graph returns, the live nodes are done and all others pruned. -/
theorem done_iff_live {g : Graph α} {found : Graph.Report} (valid : g.ensureValid = .ok found)
    (retries : Value α) (parameters : Bindings α) (stream : String → σ) (host : Host) :
    ∃ plan, Plan.ofValid g retries = .ok plan ∧
      ∀ report, execute (⟨plan, parameters, stream, host⟩ : Input σ α) = .ok report →
        ∀ n ∈ g.nodes,
          (report.states.find? n.id = some .done ↔ g.Live parameters stream n.id) ∧
          (report.states.find? n.id = some .pruned ↔ ¬ g.Live parameters stream n.id) := by
  have sound := Graph.sound_of_ensureValid valid
  refine ⟨_, Graph.Sound.plan_of_ensureValid retries valid, fun report ran n node => ?_⟩
  obtain ⟨past, r, reached, rest, rfl⟩ := reaches_of_execute (sound.closed retries) ran
  obtain ⟨log, books⟩ := reached.ledger (sound.closed retries)
  have live : r.state? n.id = some .done ↔ g.Live parameters stream n.id :=
    ⟨live_of_done sound reached rest, done_of_live sound reached rest⟩
  rw [toReport_states, ← live]
  refine ⟨.rfl, ?_⟩
  rcases books.done_or_pruned sound rest node with h | h <;> simp [h]

theorem done_iff_live_gate : ∃ report, execute Gate.input = .ok report ∧
    Gate.graph.Live Gate.input.parameters Gate.input.stream "join" ∧
    ¬ Gate.graph.Live Gate.input.parameters Gate.input.stream "exit" := by
  obtain ⟨found, valid⟩ : ∃ found, Gate.graph.ensureValid = .ok found := ⟨_, rfl⟩
  obtain ⟨report, ran, join, exit⟩ : ∃ report, execute Gate.input = .ok report ∧
      report.states.find? "join" = some .done ∧ report.states.find? "exit" = some .pruned :=
    ⟨_, rfl, rfl, rfl⟩
  obtain ⟨plan, made, states⟩ :=
    done_iff_live valid Gate.input.plan.retries Gate.input.parameters Gate.input.stream Gate.input.host
  cases made.symm.trans (Graph.Sound.plan_of_ensureValid _ valid)
  refine ⟨report, ran, ?_, ?_⟩
  · exact (states report ran (Gate.graph.nodes[3]) (by simp [Gate.graph])).1.1 join
  · exact (states report ran (Gate.graph.nodes[4]) (by simp [Gate.graph])).2.1 exit

end Run

end Dungeon
