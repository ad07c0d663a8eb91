import Dungeon.Proofs.Run.Anchoring

/-!
# What escapes from a run

A run of an accepted graph ends with a report or fails at a node. Three things get past this: the host
can bear no more prunings in a row, it refuses to make a seed of an id, or a condition asks for a
comparison by a number so long that the node cannot even say that it is unknown. A host that bears the
graph lets none of them happen.
-/

namespace Dungeon

namespace Run

variable {σ α : Type}

/-- What ends a run of the graph and is not the failure of a node. -/
inductive Escapes (g : Graph α) (host : Host) : Fault → Prop
  | refused {f : Fault} : host.Refuses g f → Escapes g host f
  | operator {n : Node α} {d : ConditionData α} : n ∈ g.nodes → n.data = .condition d →
      d.operator.writable = false → Escapes g host .unwritable

/-- The host can prune all nodes of the graph in a row, it refuses no id, and what conditions ask for
can be written. -/
structure Host.Bears (host : Host) (g : Graph α) : Prop where
  nesting : g.nodes.length ≤ host.nesting
  ids : ∀ n ∈ g.nodes, host.refusal n.id = none
  operators : ∀ n ∈ g.nodes, ∀ d, n.data = .condition d → d.operator.writable = true

theorem Host.Bears.not_escapes {g : Graph α} {host : Host} (bears : host.Bears g) (sound : g.Sound)
    (f : Fault) : ¬ Escapes g host f := by
  intro escaped
  cases escaped with
  | refused refused =>
    cases refused with
    | descent deeper =>
      -- A way through the graph is no longer than the graph.
      have short := deeper.lt_length sound.acyclic
      rw [sound.nodeIds_eq, List.length_map] at short
      exact absurd bears.nesting (Nat.not_le.2 short)
    | id node refusal => cases (bears.ids _ node).symm.trans refusal
  | operator node kind unwritable => cases (bears.operators _ node _ kind).symm.trans unwritable

variable [Scalar α] [Source σ α]

/-- When a run fails, it fails at a node, or what fails escapes. -/
theorem escapes_of_execute {input : Input σ α} (closed : input.plan.Closed) {f : Fault}
    (failed : execute input = .error f) :
    f.kind = .node ∨ Escapes input.plan.graph input.host f := by
  rcases failing_of_execute closed failed with
    refused | ⟨past, log, r, n, f', site, passes, next, node, worked, rfl⟩
  · exact .inr (.refused refused)
  · rcases failure_cases n.id f' with reported | ⟨rfl, said⟩
    · exact .inl reported
    · -- Only a condition misses a key that cannot be written.
      rw [said]
      cases (passes.grounded closed.linked n).keys _ _ worked rfl with
      | unwritable kind unwritable =>
        exact .inr (.operator (Graph.mem_of_node? node).1 kind unwritable)

/-- A graph that was accepted runs to its end, fails at a node or lets a fault escape, whatever the
streams, the parameters and the number of retries are; and nothing escapes where the host bears the
graph. In the end all nodes are done or pruned and the report says which, and no node but the start is
ever set to work without fragments. -/
theorem execute_complete {g : Graph α} {found : Graph.Report} (valid : g.ensureValid = .ok found)
    (retries : Value α) (parameters : Bindings α) (stream : String → σ) (host : Host) :
    ∃ plan, Plan.ofValid g retries = .ok plan ∧
      (∀ f, execute (⟨plan, parameters, stream, host⟩ : Input σ α) = .error f →
        f.kind = .node ∨ Escapes g host f ∧ ¬ host.Bears g) ∧
      (∀ report, execute (⟨plan, parameters, stream, host⟩ : Input σ α) = .ok report →
        report.Complete g) ∧
      ∀ past r id n, Reaches (⟨plan, parameters, stream, host⟩ : Input σ α) past r →
        r.next? = some id → g.node? id = some n → n.kind ≠ .start → r.incoming id ≠ [] := by
  have sound := Graph.sound_of_ensureValid valid
  have closed : (⟨⟨g, retries⟩, parameters, stream, host⟩ : Input σ α).plan.Closed :=
    sound.closed retries
  refine ⟨_, Graph.Sound.plan_of_ensureValid retries valid, fun f failed => ?_,
    fun report done => ?_, ?_⟩
  · exact (escapes_of_execute closed failed).imp_right fun escaped =>
      ⟨escaped, fun bears => bears.not_escapes sound f escaped⟩
  · obtain ⟨past, r, reached, rest, rfl⟩ := reaches_of_execute closed done
    obtain ⟨log, books⟩ := reached.ledger closed
    exact books.complete sound rest
  · intro past r id n reached next node working
    obtain ⟨log, books⟩ := reached.ledger closed
    obtain ⟨state, entry, ready, _⟩ := books.of_next? closed next
    obtain ⟨mem, rfl⟩ := Graph.mem_of_node? node
    exact books.incoming_ne_nil entry ready (sound.inDegree_ne_zero retries mem working)

/-- A gate with a row of three nodes behind it, the last of which is the exit. -/
def Gate.row : Graph Float where
  nodes := [
    graph.node "start" (.start {}) [] ["out"],
    graph.node "gate" (.condition { parameter := .text "open" }) ["in"] ["true", "false"],
    graph.node "first" (.sequence {}) ["in"] ["out"],
    graph.node "second" (.sequence {}) ["in"] ["out"],
    graph.node "exit" (.output {}) ["in"] [],
    graph.node "aside" (.sequence {}) ["in"] []]
  edges := [
    { id := "enter", source := ⟨"start", "out"⟩, target := ⟨"gate", "in"⟩ },
    { id := "pass", source := ⟨"gate", "true"⟩, target := ⟨"first", "in"⟩ },
    { id := "on", source := ⟨"first", "out"⟩, target := ⟨"second", "in"⟩ },
    { id := "leave", source := ⟨"second", "out"⟩, target := ⟨"exit", "in"⟩ },
    { id := "turn", source := ⟨"gate", "false"⟩, target := ⟨"aside", "in"⟩ }]

/-- A run with the gate closed, on a host that bears so many prunings in a row. -/
def Gate.closed (nesting : Nat) : Input Random.Stream Float where
  plan := ⟨Gate.row, .int 10⟩
  parameters := [(.text "open", .bool false)]
  stream := nodeStream 7
  host := { nesting }

/-- A host that has no bytes for one id. -/
def Gate.refusing (id : String) : Host where
  refusal := fun other => if other = id then some "surrogates not allowed" else none

/-- The row is pruned where the host bears it. A host that bears less ends the run, and so does one
that refuses the id of a node. -/
theorem execute_sinks : (∃ found, Gate.row.ensureValid = .ok found) ∧
    execute (Gate.closed 2) = .error .tooDeep ∧
    execute { Gate.closed 3 with host := Gate.refusing "gate" } =
      .error (.unencodable "surrogates not allowed") ∧
    ∃ report, execute (Gate.closed 3) = .ok report ∧
      report.data.pruned = ["exit", "first", "second"] :=
  ⟨⟨_, rfl⟩, rfl, rfl, _, rfl, rfl⟩

theorem execute_complete_gate : ∃ found report, Gate.graph.ensureValid = .ok found ∧
    execute Gate.input = .ok report ∧ report.Complete Gate.graph := by
  obtain ⟨found, valid⟩ : ∃ found, Gate.graph.ensureValid = .ok found := ⟨_, rfl⟩
  obtain ⟨report, ran⟩ : ∃ report, execute Gate.input = .ok report := ⟨_, rfl⟩
  obtain ⟨plan, made, _, complete, _⟩ := execute_complete valid Gate.input.plan.retries
    Gate.input.parameters Gate.input.stream Gate.input.host
  cases made.symm.trans (Graph.Sound.plan_of_ensureValid _ valid)
  exact ⟨found, report, valid, ran, complete report ran⟩

end Run

end Dungeon
