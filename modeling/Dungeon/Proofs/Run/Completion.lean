import Dungeon.Proofs.Run.Invariant
import Dungeon.Proofs.Run.Plan
import Dungeon.Random.Dice
import Mathlib.Data.List.Perm.Subperm

/-!
# Runs come to an end

On a sound graph a run stops at a node that fails, or when no node is ready. Then no node waits:
a node that did would have an open edge, whose source waits too, and so on without end, which an
acyclic graph excludes.
-/

namespace Dungeon

variable {α : Type}

/-- All nodes are done or pruned, and the report counts the ones and lists the others. -/
structure RunReport.Complete (g : Graph α) (report : RunReport α) : Prop where
  keys : report.states.keys = g.nodes.map Node.id
  settled : ∀ n ∈ g.nodes,
    report.states.find? n.id = some .done ∨ report.states.find? n.id = some .pruned
  executions : report.data.executions =
    (g.nodes.filter fun n => report.states.find? n.id = some .done).length
  mem_pruned : ∀ id, id ∈ report.data.pruned ↔ report.states.find? id = some .pruned
  nodup : report.data.pruned.Nodup
  sorted : report.data.pruned.Pairwise (· ≤ ·)
  total : report.data.executions + report.data.pruned.length = g.nodes.length

namespace Run

section
variable {p : Plan α} {past : List (Execution α)} {log work : List (Delivery α)} {r : Run α}

namespace Ledger

/-- In a settled state the edges settled are those that leave finished nodes. -/
theorem settledTo_eq (books : Ledger p past log [] r) (id : String) :
    settledTo log id =
      p.graph.edges.countP fun e => e.target.node == id && r.finished e.source.node := by
  have counted := books.edges.countP_eq fun e => e.target.node == id
  rw [List.append_nil, List.countP_map, List.countP_filter] at counted
  exact counted

theorem settledTo_le (books : Ledger p past log work r) (id : String) :
    settledTo log id ≤ p.inDegree id :=
  (Nat.le_add_right _ _).trans (books.settledTo_add_le id)

/-- A node that waits has an open edge, so that the source of this edge is not finished. -/
theorem fed_of_pending (books : Ledger p past log [] r) {id : String}
    (waits : r.state? id = some .pending) : ∃ e ∈ p.graph.edges, e.target.node = id ∧
      r.finished e.source.node = false := by
  obtain ⟨g, found, s⟩ := Option.map_eq_some_iff.1 waits
  have open_ := ((books.accounts _ _ found).pending.1 s).1
  rw [books.settledTo_eq] at open_
  have missing : ¬ ∀ e ∈ p.graph.edges, e.target.node = id → r.finished e.source.node = true := by
    intro all
    refine absurd open_ (Nat.not_lt.2 (List.countP_mono_left fun e he h => ?_))
    simp [h, all e he (by simpa using h)]
  obtain ⟨e, missing⟩ := Classical.not_forall.1 missing
  obtain ⟨he, missing⟩ := Classical.not_imp.1 missing
  obtain ⟨target, unfinished⟩ := Classical.not_imp.1 missing
  exact ⟨e, he, target, by simpa using unfinished⟩

/-- When no node is ready, a node that is not finished waits. -/
theorem finished_or_pending (books : Ledger p past log [] r) (rest : r.next? = none) {id : String}
    (node : id ∈ p.graph.nodeIds) : r.finished id = true ∨ r.state? id = some .pending := by
  obtain ⟨g, found⟩ := books.find?_of_mem node
  have state := state?_eq found
  have calm := books.calm id
  have idle := not_ready_of_next? rest found
  cases s : g.state with
  | done | pruned => left; simp [finished, state, s]
  | pending => right; rw [state, s]
  | ready => exact absurd s idle
  | executing | failed => simp [state, s] at calm

/-- When no node is ready, all nodes are finished. -/
theorem finished_of_rest (closed : p.Closed) (acyclic : WellFounded p.graph.Feeds)
    (books : Ledger p past log [] r) (rest : r.next? = none) {id : String}
    (node : id ∈ p.graph.nodeIds) : r.finished id = true := by
  -- The induction goes against the edges, from a node to the sources of the edges that lead to it.
  induction id using acyclic.induction with
  | h id ih =>
    rcases books.finished_or_pending rest node with done | waits
    · exact done
    · obtain ⟨e, he, target, unfinished⟩ := books.fed_of_pending waits
      rw [ih e.source.node ⟨e, he, rfl, target⟩ (closed.sources e he)] at unfinished
      cases unfinished

/-- When no node is ready, each node is done or pruned. -/
theorem done_or_pruned {g : Graph α} {retries : Value α} (sound : g.Sound)
    (books : Ledger ⟨g, retries⟩ past log [] r) (rest : r.next? = none) {n : Node α}
    (node : n ∈ g.nodes) : r.state? n.id = some .done ∨ r.state? n.id = some .pruned := by
  have listed : n.id ∈ g.nodeIds := Graph.mem_nodeIds.2 ⟨n, node, rfl⟩
  have finished := books.finished_of_rest (sound.closed retries) sound.acyclic rest listed
  simpa [Run.finished] using finished

/-- Only nodes of the graph have a state. -/
theorem mem_nodeIds_of_state? (books : Ledger p past log work r) {id : String} {s : NodeState}
    (h : r.state? id = some s) : id ∈ p.graph.nodeIds := by
  obtain ⟨g, found, _⟩ := Option.map_eq_some_iff.1 h
  exact books.mem_nodeIds found

/-- A list of the nodes in one state is as long as there are nodes in it. -/
theorem length_eq_filter {g : Graph α} {retries : Value α} (sound : g.Sound)
    (books : Ledger ⟨g, retries⟩ past log work r) {ids : List String} {s : NodeState}
    (once : ids.Nodup) (listed : ∀ id, id ∈ ids ↔ r.state? id = some s) :
    ids.length = (g.nodes.filter fun n => r.state? n.id = some s).length := by
  -- Both lists are without repetition and have the same members.
  have perm : ids.Perm ((g.nodes.map Node.id).filter fun id => r.state? id = some s) := by
    refine (List.perm_ext_iff_of_nodup once (sound.nodes.filter _)).2 fun id => ?_
    rw [listed, List.mem_filter, decide_eq_true_iff, ← sound.nodeIds_eq]
    exact ⟨fun h => ⟨books.mem_nodeIds_of_state? h, h⟩, fun h => h.2⟩
  rw [perm.length_eq, List.filter_map, List.length_map]
  rfl

/-- While a node is ready, fewer nodes have run than there are. -/
theorem length_past_lt (books : Ledger p past log [] r) {id : String}
    (node : id ∈ p.graph.nodeIds) (new : r.state? id ≠ some .done) :
    past.length < p.graph.nodeIds.length := by
  have distinct : (id :: past.map Execution.id).Nodup :=
    List.nodup_cons.2 ⟨fun h => new ((books.done id).2 h), books.once⟩
  have inside : id :: past.map Execution.id ⊆ p.graph.nodeIds := by
    intro j hj
    rcases List.mem_cons.1 hj with rfl | hj
    · exact node
    · exact books.mem_nodeIds_of_state? ((books.done j).2 hj)
  have bound := (distinct.subperm inside).length_le
  simp only [List.length_cons, List.length_map] at bound
  omega

/-- A node that neither waits nor was pruned was sent something, unless no edge leads to it. -/
theorem sentTo_ne_nil (books : Ledger p past log [] r) {id : String} {g : Progress α}
    (found : r.progress.find? id = some g) (active : g.state ≠ .pending) (alive : g.state ≠ .pruned)
    (fed : p.inDegree id ≠ 0) : sentTo log id ≠ [] := by
  have kept := books.accounts id g found
  have bound := books.settledTo_le id
  intro unsent
  by_cases open_ : settledTo log id < p.inDegree id
  · exact active (kept.pending.2 ⟨open_, fun _ => unsent⟩)
  · exact alive (kept.pruned.2 ⟨by omega, fed, unsent⟩)

/-- A node that is ready has fragments, unless no edge leads to it. -/
theorem incoming_ne_nil (books : Ledger p past log [] r) {id : String} {g : Progress α}
    (found : r.progress.find? id = some g) (ready : g.state = .ready)
    (fed : p.inDegree id ≠ 0) : r.incoming id ≠ [] := by
  have some_sent := books.sentTo_ne_nil found (by simp [ready]) (by simp [ready]) fed
  intro nothing
  rw [incoming_eq found, List.map_eq_nil_iff] at nothing
  have none_landed := (nothing ▸ sortBy_perm Arrival.before g.arrivals).symm.eq_nil
  rw [(books.accounts id g found).arrivals, List.map_eq_nil_iff, p.admits_eq_nil] at none_landed
  exact some_sent none_landed

end Ledger
end

section
variable {σ : Type} [Scalar α]

theorem toReport_states (r : Run α) (id : String) :
    r.toReport.states.find? id = r.state? id :=
  Table.find?_map Progress.state r.progress id

/-- In the end the report says of every node what became of it. -/
theorem Ledger.complete {past : List (Execution α)} {log : List (Delivery α)} {r : Run α}
    {g : Graph α} {retries : Value α} (sound : g.Sound) (books : Ledger ⟨g, retries⟩ past log [] r)
    (rest : r.next? = none) : r.toReport.Complete g := by
  have finished (n : Node α) (node : n ∈ g.nodes) := books.done_or_pruned sound rest node
  have executions := books.length_eq_filter sound books.once fun id => (books.done id).symm
  have pruned := books.length_eq_filter sound books.prunedOnce books.pruned
  rw [List.length_map, ← books.executions] at executions
  have others : (g.nodes.filter fun n => r.state? n.id = some .pruned) =
      g.nodes.filter fun n => ¬ (r.state? n.id = some .done) := by
    refine List.filter_congr fun n node => ?_
    rcases finished n node with h | h <;> simp [h]
  have perm := sortedTexts_perm r.pruned
  exact {
    keys := (Table.keys_map _ _).trans (books.keys.trans sound.nodeIds_eq)
    settled := by simpa only [toReport_states] using finished
    executions := by simpa only [toReport_states] using! executions
    mem_pruned := fun id => by
      rw [toReport_states, ← books.pruned]
      exact perm.mem_iff
    nodup := perm.nodup_iff.2 books.prunedOnce
    sorted := sortedTexts_pairwise r.pruned
    total := by
      have parts := List.length_eq_length_filter_add (l := g.nodes)
        fun n => r.state? n.id = some .done
      show r.executions + (sortedTexts r.pruned).length = _
      rw [executions, perm.length_eq, pruned, others, parts]
      simp }

variable [Source σ α] {input : Input σ α}

/-- What a host refuses to a run of the graph: to prune more nodes in a row than it bears, and to make
a seed of the id of a node. -/
inductive Host.Refuses (host : Host) (g : Graph α) : Fault → Prop
  | descent : g.DeeperThan host.nesting → host.Refuses g .tooDeep
  | id {n : Node α} {text : String} : n ∈ g.nodes → host.refusal n.id = some text →
      host.Refuses g (.unencodable text)

/-- A node that runs next fails, the host refuses to go on, or the run comes to the next state. -/
theorem Reaches.advance_cases (closed : input.plan.Closed) {past : List (Execution α)} {r : Run α}
    (reached : Reaches input past r) {id : String} (next : r.next? = some id) :
    ∃ n, input.plan.graph.node? id = some n ∧
      ((∃ f site, input.work r n = .error f site ∧ advance input r id = .error (failure id f)) ∨
        (∃ f, input.host.Refuses input.plan.graph f ∧ advance input r id = .error f) ∨
        ∃ out r', advance input r id = .ok r' ∧
          Reaches input (past ++ [⟨id, r.incoming id, out⟩]) r') := by
  obtain ⟨log, books⟩ := reached.ledger closed
  obtain ⟨g, found, ready, node⟩ := books.of_next? closed next
  obtain ⟨n, node⟩ := Graph.mem_nodeIds_iff_node?.1 node
  obtain ⟨member, rfl⟩ := Graph.mem_of_node? node
  refine ⟨n, node, ?_⟩
  cases refusal : input.host.refusal n.id with
  | some text =>
    refine .inr (.inl ⟨_, .id member refusal, ?_⟩)
    rw [advance, node]
    simp only [perform_refused refusal]
    rfl
  | none =>
    have performed := perform_executing refusal found
    cases worked : input.work r n with
    | error f site =>
      left
      refine ⟨f, site, rfl, ?_⟩
      rw [worked] at performed
      rw [advance, node]
      simp only [performed]
      rfl
    | ok out site =>
      right
      rw [worked] at performed
      have advanced {t : Run α} (h : perform input (r.setState n.id .executing) n = .ok (t, out)) :
          advance input r n.id =
            settleAll input.plan input.host.nesting (deliveries input.plan n.id out) t := by
        rw [advance, node]
        simp only [h]
        rfl
      rw [advanced performed]
      rcases (books.perform found ready out site.draft).settleAll_cases closed input.host.nesting with
        ⟨r', settled⟩ | ⟨sunk, deeper⟩
      · exact .inr ⟨out, r', settled, reached.step next node performed settled⟩
      · exact .inl ⟨_, .descent deeper, sunk⟩

/-- The loop ends in a state in which no node is ready, at a node that fails, or because the host
refuses to go on. -/
theorem Reaches.loop_cases (closed : input.plan.Closed) {limit : Nat} {past : List (Execution α)}
    {r : Run α} (reached : Reaches input past r)
    (enough : input.plan.graph.nodeIds.length ≤ limit + past.length) :
    (∃ past' r', loop input limit r = .ok r' ∧ Reaches input past' r' ∧ r'.next? = none) ∨
      (∃ past' r' id n f site, loop input limit r = .error (failure id f) ∧
        Reaches input past' r' ∧ r'.next? = some id ∧ input.plan.graph.node? id = some n ∧
        input.work r' n = .error f site) ∨
      ∃ f, loop input limit r = .error f ∧ input.host.Refuses input.plan.graph f := by
  -- Every step takes one from the limit and adds one execution, so their sum stays large enough.
  induction limit generalizing past r with
  | zero =>
    left
    refine ⟨past, r, rfl, reached, ?_⟩
    cases next : r.next? with
    | none => rfl
    | some id =>
      obtain ⟨log, books⟩ := reached.ledger closed
      obtain ⟨g, found, ready, node⟩ := books.of_next? closed next
      have bound := books.length_past_lt node (by simp [state?_eq found, ready])
      omega
  | succ limit ih =>
    cases next : r.next? with
    | none => exact .inl ⟨past, r, by rw [loop, next], reached, next⟩
    | some id =>
      obtain ⟨n, node, ⟨f, site, worked, failed⟩ | ⟨f, refused, failed⟩ |
        ⟨out, r', advanced, reached'⟩⟩ := reached.advance_cases closed next
      · refine .inr (.inl ⟨past, r, id, n, f, site, ?_, reached, next, node, worked⟩)
        rw [loop, next]
        simp only [failed]
        rfl
      · refine .inr (.inr ⟨f, ?_, refused⟩)
        rw [loop, next]
        simp only [failed]
        rfl
      · have looped : loop input (limit + 1) r = loop input limit r' := by
          rw [loop, next]
          simp only [advanced]
          rfl
        rw [looped]
        refine ih reached' ?_
        simp only [List.length_append, List.length_singleton]
        omega

/-- A run reports the state in which no node is ready, fails at a node, or the host refuses to go
on. -/
theorem execute_cases (closed : input.plan.Closed) :
    (∃ past r, execute input = .ok r.toReport ∧ Reaches input past r ∧ r.next? = none) ∨
      (∃ past r id n f site, execute input = .error (failure id f) ∧ Reaches input past r ∧
        r.next? = some id ∧ input.plan.graph.node? id = some n ∧ input.work r n = .error f site) ∨
      ∃ f, execute input = .error f ∧ input.host.Refuses input.plan.graph f := by
  rcases Reaches.initial.loop_cases closed (Nat.le_refl _) with
    ⟨past, r, looped, reached, rest⟩ | ⟨past, r, id, n, f, site, looped, failed⟩ |
    ⟨f, looped, refused⟩
  · refine .inl ⟨past, r, ?_, reached, rest⟩
    rw [execute, looped]
    rfl
  · refine .inr (.inl ⟨past, r, id, n, f, site, ?_, failed⟩)
    rw [execute, looped]
    rfl
  · refine .inr (.inr ⟨f, ?_, refused⟩)
    rw [execute, looped]
    rfl

/-- What is reported is a state that the run comes to, and in which no node is ready. -/
theorem reaches_of_execute (closed : input.plan.Closed) {report : RunReport α}
    (done : execute input = .ok report) :
    ∃ past r, Reaches input past r ∧ r.next? = none ∧ report = r.toReport := by
  rcases execute_cases closed with
    ⟨past, r, ran, reached, rest⟩ | ⟨_, _, _, _, _, _, failed, _⟩ | ⟨_, failed, _⟩
  · rw [ran] at done
    exact ⟨past, r, reached, rest, (Except.ok.inj done).symm⟩
  · cases failed.symm.trans done
  · cases failed.symm.trans done

/-- The loop goes on from every state that the run comes to. -/
theorem Reaches.loop_eq {past : List (Execution α)} {r : Run α} (reached : Reaches input past r)
    (limit : Nat) : loop input (past.length + limit) (Run.initial input.plan) =
      loop input limit r := by
  induction reached generalizing limit with
  | initial => rw [List.length_nil, Nat.zero_add]
  | @step past r r' r'' id n out _ next node worked settled ih =>
    have advanced : advance input r id = .ok r'' := by
      rw [advance, node]
      simp only [worked]
      exact settled
    rw [List.length_append, List.length_singleton, Nat.add_assoc, Nat.add_comm 1 limit, ih, loop, next]
    simp only [advanced]
    rfl

/-- A state in which no node is ready is what the run reports. -/
theorem Reaches.execute_eq (closed : input.plan.Closed) {past : List (Execution α)} {r : Run α}
    (reached : Reaches input past r) (rest : r.next? = none) : execute input = .ok r.toReport := by
  obtain ⟨log, books⟩ := reached.ledger closed
  have inside : past.map Execution.id ⊆ input.plan.graph.nodeIds := fun id ran =>
    books.mem_nodeIds_of_state? ((books.done id).2 ran)
  have bound := (books.once.subperm inside).length_le
  rw [List.length_map] at bound
  obtain ⟨limit, enough⟩ := Nat.exists_eq_add_of_le bound
  have stopped : loop input limit r = .ok r := by
    cases limit with
    | zero => rfl
    | succ limit => rw [loop, rest]
  rw [execute, enough, reached.loop_eq, stopped]
  rfl

omit [Scalar α] [Source σ α] in
/-- A fault inside a node becomes a failure of this node, unless it is a key that cannot be written. -/
theorem failure_cases (id : String) (f : Fault) :
    (failure id f).kind = .node ∨ f = .unwritableKey ∧ failure id f = .unwritable := by
  unfold failure
  split
  · exact .inr ⟨rfl, rfl⟩
  · left
    split
    next node => exact node
    next => rfl

end

namespace Gate

/-- Through an open gate a fragment comes to both ports of a merge, past a closed one to an exit. -/
def graph : Graph Float where
  nodes := [
    node "start" (.start {}) [] ["out"],
    node "gate" (.condition { parameter := .text "open" }) ["in"] ["true", "false"],
    node "twice" (.sequence {}) ["in"] ["left", "right"],
    node "join" (.merge { strategy := .proper .first }) ["left", "right"] ["out"],
    node "exit" (.output {}) ["in"] []]
  edges := [
    { id := "enter", source := ⟨"start", "out"⟩, target := ⟨"gate", "in"⟩ },
    { id := "pass", source := ⟨"gate", "true"⟩, target := ⟨"twice", "in"⟩ },
    { id := "leave", source := ⟨"gate", "false"⟩, target := ⟨"exit", "in"⟩ },
    { id := "left", source := ⟨"twice", "left"⟩, target := ⟨"join", "left"⟩ },
    { id := "right", source := ⟨"twice", "right"⟩, target := ⟨"join", "right"⟩ }]
where
  node (id : String) (data : NodeData Float) (inputs outputs : List String) : Node Float :=
    { id, data, position := ⟨.whole 0, .whole 0⟩
      inputs := inputs.map fun id => { id, side := .input }
      outputs := outputs.map fun id => { id, side := .output } }

/-- A run with the gate open. -/
def input : Input Random.Stream Float where
  plan := ⟨graph, .int 10⟩
  parameters := [(.text "open", .bool true)]
  stream := nodeStream 7

end Gate

end Run

end Dungeon
