import Dungeon.Proofs.Graph.WellFormed
import Dungeon.Proofs.Run.Completion
import Dungeon.Proofs.Work.Rooted

/-!
# Runs stop on every graph

A graph need not be valid for its runs to stop: it is enough that edges lead from nodes to nodes.
`Passes` takes a run apart into single steps, in which one node works or one edge is settled. Each of
them is entered in the ledger, which has room for one entry of every node and of every edge. Where no
step is left a node can only wait for another one that waits, so that waiting nodes lie behind a cycle.
-/

namespace Dungeon

variable {α : Type}

/-- A plan without a check of its graph still has edges that lead from nodes to nodes. -/
theorem Plan.linked_of_ofGraph {g : Graph α} {retries : Value α} {p : Plan α}
    (made : Plan.ofGraph g retries = .ok p) : p = ⟨g, retries⟩ ∧ p.Linked := by
  have there {id : String} (checked : checkNode g id = .ok ()) : id ∈ g.nodeIds := by
    unfold checkNode at checked
    split at checked
    next found => exact Graph.mem_nodeIds_iff_node?.2 (Option.isSome_iff_exists.1 found)
    next => cases checked
  have linked (edges : List (Edge α)) (checked : checkEdges g edges = .ok ()) :
      ∀ e ∈ edges, e.source.node ∈ g.nodeIds ∧ e.target.node ∈ g.nodeIds := by
    induction edges with
    | nil => exact fun e he => nomatch he
    | cons e rest ih =>
      obtain ⟨_, source, checked⟩ := except_bind_eq_ok.1 checked
      obtain ⟨_, target, checked⟩ := except_bind_eq_ok.1 checked
      exact List.forall_mem_cons.2 ⟨⟨there source, there target⟩, ih checked⟩
  obtain ⟨_, checked, made⟩ := except_bind_eq_ok.1 made
  cases made
  have ends := linked g.edges checked
  exact ⟨rfl, nodup_eraseDups _, fun e he => (ends e he).1, fun e he => (ends e he).2⟩

namespace Run

section
variable {p : Plan α} {past : List (Execution α)} {log work : List (Delivery α)} {r : Run α}

/-- Settling an edge fails only when a fragment comes to a port that its node does not have. -/
theorem settle_error {e : Edge α} {f : Option (Fragment α)} {fault : Fault}
    (h : r.settle p (e, f) = .error fault) : p.inputIndex? e.target = none ∧
      fault = .missingKey ("(" ++ Text.quote e.target.node ++ ", " ++ Text.quote e.target.port ++ ")") := by
  have portless : p.inputIndex? e.target = none := by
    cases port : p.inputIndex? e.target with
    | none => rfl
    | some i =>
      obtain ⟨out, settled⟩ := settle_succeeds r f ⟨i, port⟩
      rw [settled] at h
      cases h
  refine ⟨portless, ?_⟩
  simp only [settle, arrive, portless] at h
  split at h
  · cases h
  · cases f with
    | none => cases h
    | some x =>
      cases h
      rfl

/-- No step is taken twice: a node has worked once at most, and an edge is settled once at most. So the
count of open edges goes down to zero and not below. -/
structure Frugal (p : Plan α) (past : List (Execution α)) (log : List (Delivery α)) (r : Run α) :
    Prop where
  nodes : (past.map Execution.id).Nodup
  inside : past.map Execution.id ⊆ p.graph.nodeIds
  edges : (log.map Prod.fst).Subperm p.graph.edges
  counters : ∀ id g, r.progress.find? id = some g → 0 ≤ g.unsettled

theorem Ledger.frugal (books : Ledger p past log work r) : Frugal p past log r where
  nodes := books.once
  inside id ran := books.mem_nodeIds_of_state? ((books.done id).2 ran)
  edges := by
    have settled : (log.map Prod.fst).Subperm ((log ++ work).map Prod.fst) :=
      ((List.sublist_append_left log work).map Prod.fst).subperm
    exact settled.trans (books.edges.subperm.trans List.filter_sublist.subperm)
  counters id g found := by
    have counted := (books.accounts id g found).unsettled
    have within := books.settledTo_le id
    omega

/-- As many steps as there are nodes and edges are more than enough. -/
theorem Frugal.length_le (h : Frugal p past log r) :
    past.length + log.length ≤ p.graph.nodeIds.length + p.graph.edges.length := by
  have nodes := (h.nodes.subperm h.inside).length_le
  have edges := h.edges.length_le
  simp only [List.length_map] at nodes edges
  omega

end

section
variable {σ : Type} [Scalar α] [Source σ α]

/-- The run passes through a state: these nodes have worked, these deliveries have been settled, and
those are to be settled before another node works. -/
inductive Passes (input : Input σ α) :
    List (Execution α) → List (Delivery α) → List (Delivery α) → Run α → Prop
  | initial : Passes input [] [] [] (initial input.plan)
  | perform {past : List (Execution α)} {log : List (Delivery α)} {r r' : Run α} {id : String}
      {n : Node α} {out : Outcome α} :
      Passes input past log [] r → r.next? = some id → input.plan.graph.node? id = some n →
      perform input (r.setState id .executing) n = .ok (r', out) →
      Passes input (past ++ [⟨id, r.incoming id, out⟩]) log (deliveries input.plan id out) r'
  | settle {past : List (Execution α)} {log work more : List (Delivery α)} {d : Delivery α}
      {r r' : Run α} :
      Passes input past log (d :: work) r → r.settle input.plan d = .ok (r', more) →
      Passes input past (log ++ [d]) (more ++ work) r'

/-- How a run ends: no node is ready any more, the work of a node that has not worked before fails or
its id is refused, a fragment comes to a port that its node does not have, or more nodes have been
pruned, one for the other, than the host bears at once. -/
inductive Ends (input : Input σ α) (past : List (Execution α)) :
    List (Delivery α) → Run α → Except Fault (Run α) → Prop
  | resting {r : Run α} : r.next? = none → Ends input past [] r (.ok r)
  | failing {r : Run α} {id : String} {n : Node α} {f : Fault} {site : Site σ α} :
      r.next? = some id → input.plan.graph.node? id = some n → id ∉ past.map Execution.id →
      input.work r n = .error f site → Ends input past [] r (.error (failure id f))
  | refused {r : Run α} {id : String} {n : Node α} {text : String} :
      r.next? = some id → input.plan.graph.node? id = some n → id ∉ past.map Execution.id →
      input.host.refusal id = some text → Ends input past [] r (.error (.unencodable text))
  | straying {r : Run α} {e : Edge α} {f : Option (Fragment α)} {rest : List (Delivery α)} :
      e ∈ input.plan.graph.edges → input.plan.inputIndex? e.target = none →
      Ends input past ((e, f) :: rest) r (.error (.missingKey
        ("(" ++ Text.quote e.target.node ++ ", " ++ Text.quote e.target.port ++ ")")))
  | sinking {r : Run α} {work : List (Delivery α)} {chain : List String} :
      input.host.nesting < chain.length → chain.IsChain input.plan.graph.Feeds →
      chain ⊆ r.pruned → Ends input past work r (.error .tooDeep)

variable {input : Input σ α} {past : List (Execution α)} {log work : List (Delivery α)} {r : Run α}

/-- Every step is entered in the ledger. -/
theorem Passes.ledger (linked : input.plan.Linked) (passes : Passes input past log work r) :
    Ledger input.plan past log work r := by
  induction passes with
  | initial => exact ledger_initial _
  | @perform past log r r' id n out _ next node worked books =>
    obtain ⟨g, found, ready⟩ := ready_of_next? (books.keys ▸ linked.distinct) next
    obtain ⟨_, rfl⟩ := Graph.mem_of_node? node
    obtain ⟨site, _, rfl⟩ := performed found worked
    exact books.perform found ready out site.draft
  | @settle past log work more d r r' _ settled books => exact books.settle linked settled

/-- The run passes all states that it comes to while edges are settled. -/
theorem Passes.settles (passes : Passes input past log work r) {work' : List (Delivery α)}
    {r' : Run α} (settles : Settles input.plan work r work' r') :
    ∃ log', Passes input past log' work' r' := by
  induction settles generalizing log with
  | refl => exact ⟨log, passes⟩
  | step settled _ ih => exact ih (passes.settle settled)

/-- Where settling gets stuck the run ends. -/
theorem Passes.ends_of_stuck (linked : input.plan.Linked) (passes : Passes input past log work r)
    {ds : List (Delivery α)} {f : Fault} (stuck : Stuck input.plan input.host.nesting ds work r f) :
    Ends input past work r (.error f) := by
  cases stuck with
  | @astray d rest _ _ failed =>
    obtain ⟨e, x⟩ := d
    obtain ⟨portless, rfl⟩ := settle_error failed
    exact .straying (passes.ledger linked).mem_edges portless
  | sunk _ long chain pruned => exact .sinking (by simp [long]) chain pruned

/-- What waits to be settled is settled step by step, unless one of the steps fails. -/
theorem Passes.settleAll_cases (linked : input.plan.Linked) (passes : Passes input past log work r) :
    (∃ log' r', settleAll input.plan input.host.nesting work r = .ok r' ∧
        Passes input past log' [] r') ∨
      ∃ log' work' r' f, settleAll input.plan input.host.nesting work r = .error f ∧
        Passes input past log' work' r' ∧ Ends input past work' r' (.error f) := by
  rcases Run.settleAll_cases input.plan input.host.nesting work r with
    ⟨r', settled, settles⟩ | ⟨work', r', f, failed, settles, stuck⟩
  · obtain ⟨log', passes'⟩ := passes.settles settles
    exact .inl ⟨log', r', settled, passes'⟩
  · obtain ⟨log', passes'⟩ := passes.settles settles
    exact .inr ⟨log', work', r', f, failed, passes', passes'.ends_of_stuck linked stuck⟩

/-- A node that is ready works and its edges are settled, unless one of these steps fails. -/
theorem Passes.advance_cases (linked : input.plan.Linked) (passes : Passes input past log [] r)
    {id : String} (next : r.next? = some id) :
    (∃ past' log' r', advance input r id = .ok r' ∧ Passes input past' log' [] r' ∧
        past'.length = past.length + 1) ∨
      ∃ past' log' work' r' f, advance input r id = .error f ∧
        Passes input past' log' work' r' ∧ Ends input past' work' r' (.error f) := by
  have books := passes.ledger linked
  obtain ⟨g, found, ready⟩ := ready_of_next? (books.keys ▸ linked.distinct) next
  obtain ⟨n, node⟩ := Graph.mem_nodeIds_iff_node?.1 (books.mem_nodeIds found)
  obtain ⟨_, rfl⟩ := Graph.mem_of_node? node
  have fresh : n.id ∉ past.map Execution.id := by
    rw [← books.done, state?_eq found, ready]
    simp
  cases refusal : input.host.refusal n.id with
  | some text =>
    refine .inr ⟨past, log, [], r, _, ?_, passes, .refused next node fresh refusal⟩
    rw [advance, node]
    simp only [perform_refused refusal]
    rfl
  | none => ?_
  have performed := perform_executing refusal found
  cases worked : input.work r n with
  | error f site =>
    rw [worked] at performed
    refine .inr ⟨past, log, [], r, _, ?_, passes, .failing next node fresh worked⟩
    rw [advance, node]
    simp only [performed]
    rfl
  | ok out site =>
    obtain ⟨r₁, worked⟩ : ∃ r₁, Run.perform input (r.setState n.id .executing) n = .ok (r₁, out) :=
      ⟨_, by rw [performed, worked]⟩
    have advanced : advance input r n.id = settleAll input.plan input.host.nesting
        (deliveries input.plan n.id out) r₁ := by
      rw [advance, node]
      simp only [worked]
      rfl
    rw [advanced]
    rcases (passes.perform next node worked).settleAll_cases linked with
      ⟨log', r', settled, passes'⟩ | ⟨log', work', r', f, failed, passes', ends⟩
    · exact .inl ⟨_, log', r', settled, passes', by simp⟩
    · exact .inr ⟨_, log', work', r', f, failed, passes', ends⟩

/-- The loop goes on until the run ends; its limit is never what stops it. -/
theorem Passes.loop_ends (linked : input.plan.Linked) {limit : Nat}
    (passes : Passes input past log [] r)
    (enough : input.plan.graph.nodeIds.length ≤ limit + past.length) :
    ∃ past' log' work' r', Passes input past' log' work' r' ∧
      Ends input past' work' r' (loop input limit r) := by
  induction limit generalizing past log r with
  | zero =>
    refine ⟨past, log, [], r, passes, .resting ?_⟩
    cases next : r.next? with
    | none => rfl
    | some id =>
      have books := passes.ledger linked
      obtain ⟨g, found, ready⟩ := ready_of_next? (books.keys ▸ linked.distinct) next
      have bound := books.length_past_lt (books.mem_nodeIds found) (by simp [state?_eq found, ready])
      omega
  | succ limit ih =>
    cases next : r.next? with
    | none =>
      rw [loop, next]
      exact ⟨past, log, [], r, passes, .resting next⟩
    | some id =>
      rw [loop, next]
      rcases passes.advance_cases linked next with
        ⟨past', log', r', advanced, passes', longer⟩ | ⟨past', log', work', r', f, failed, ended⟩
      · simp only [advanced]
        exact ih passes' (by omega)
      · simp only [failed]
        exact ⟨past', log', work', r', ended⟩

/-- The run of any graph ends in one of these ways. -/
theorem execute_ends (linked : input.plan.Linked) :
    ∃ past log work r outcome, Passes input past log work r ∧ Ends input past work r outcome ∧
      execute input = outcome.map toReport := by
  obtain ⟨past, log, work, r, passes, ends⟩ :=
    Passes.initial.loop_ends linked (Nat.le_refl input.plan.graph.nodeIds.length)
  refine ⟨past, log, work, r, _, passes, ends, ?_⟩
  rw [execute]
  cases loop input input.plan.graph.nodeIds.length (initial input.plan) <;> rfl

end

end Run

/-- Nodes are done, pruned or still pending. A pending node is fed by a pending node, and so there is
one only where the edges run in a cycle. -/
structure RunReport.Halted (g : Graph α) (report : RunReport α) : Prop where
  keys : report.states.keys = g.nodeIds
  states : ∀ id ∈ g.nodeIds, report.states.find? id = some .done ∨
    report.states.find? id = some .pruned ∨ report.states.find? id = some .pending
  fed : ∀ id, report.states.find? id = some .pending →
    ∃ e ∈ g.edges, e.target.node = id ∧ report.states.find? e.source.node = some .pending
  cyclic : ∀ id, report.states.find? id = some .pending →
    ∃ stuck, report.states.find? stuck = some .pending ∧ Relation.TransGen g.Feeds stuck stuck

namespace Run

section
variable {p : Plan α} {past : List (Execution α)} {log : List (Delivery α)} {r : Run α}

theorem Ledger.halted [Scalar α] (linked : p.Linked) (books : Ledger p past log [] r)
    (rest : r.next? = none) : r.toReport.Halted p.graph := by
  have fed (id : String) (waits : r.state? id = some .pending) :
      ∃ e ∈ p.graph.edges, e.target.node = id ∧ r.state? e.source.node = some .pending := by
    obtain ⟨e, he, target, unfinished⟩ := books.fed_of_pending waits
    have source := books.finished_or_pending rest (linked.sources e he)
    rw [unfinished] at source
    exact ⟨e, he, target, source.resolve_left (by simp)⟩
  refine {
    keys := (Table.keys_map _ _).trans books.keys
    states := fun id node => ?_
    fed := by simpa only [toReport_states] using fed
    cyclic := fun id waits => ?_ }
  · have finished := books.finished_or_pending rest node
    simpa [toReport_states, Run.finished, or_assoc] using finished
  · -- Without a cycle the waiting nodes, each of them fed by another, would be none.
    by_contra none_stuck
    have acyclic : ∀ x, ¬ Relation.TransGen
        (fun a b => r.state? b = some .pending ∧ p.graph.Feeds a b) x x := by
      intro x cycle
      obtain ⟨_, _, waits, _⟩ := Relation.TransGen.tail'_iff.1 cycle
      have around := Relation.TransGen.mono (fun _ _ h => h.2) _ _ cycle
      exact none_stuck ⟨x, by rwa [toReport_states], around⟩
    obtain ⟨waiting, mem_waiting⟩ : ∃ waiting : List String,
        ∀ x, x ∈ waiting ↔ r.state? x = some .pending :=
      ⟨p.graph.nodeIds.filter fun id => r.state? id = some .pending, fun x => by
        simpa using books.mem_nodeIds_of_state?⟩
    have nothing : waiting = [] := eq_nil_of_fed acyclic fun x member => by
      have waits := (mem_waiting x).1 member
      obtain ⟨e, he, target, source⟩ := fed x waits
      exact ⟨e.source.node, (mem_waiting _).2 source, waits, e, he, rfl, target⟩
    rw [toReport_states, ← mem_waiting, nothing] at waits
    exact List.not_mem_nil waits

end

variable {σ : Type} [Scalar α] [Source σ α]

/-- Whatever the graph of a plan looks like, its runs end: in every state that a run passes no node
has worked twice, no edge has been settled twice and no count is below zero, and from there the run
comes to an end. What is then reported is which nodes are done, pruned, or stuck behind a cycle. -/
theorem execute_stops {g : Graph α} {retries : Value α} {plan : Plan α}
    (made : Plan.ofGraph g retries = .ok plan) (parameters : Bindings α) (stream : String → σ)
    (host : Host) :
    (∀ past log work r, Passes (⟨plan, parameters, stream, host⟩ : Input σ α) past log work r →
      Frugal plan past log r ∧ past.length + log.length ≤ g.nodeIds.length + g.edges.length) ∧
    (∃ past log work r outcome, Passes (⟨plan, parameters, stream, host⟩ : Input σ α) past log work r ∧
      Ends (⟨plan, parameters, stream, host⟩ : Input σ α) past work r outcome ∧
      execute (⟨plan, parameters, stream, host⟩ : Input σ α) = outcome.map toReport) ∧
    ∀ report, execute (⟨plan, parameters, stream, host⟩ : Input σ α) = .ok report → report.Halted g := by
  obtain ⟨rfl, linked⟩ := Plan.linked_of_ofGraph made
  have linked : (⟨⟨g, retries⟩, parameters, stream, host⟩ : Input σ α).plan.Linked := linked
  have ended := execute_ends linked
  refine ⟨fun past log work r passes => ?_, ended, fun report done => ?_⟩
  · have frugal := (passes.ledger linked).frugal
    exact ⟨frugal, frugal.length_le⟩
  · obtain ⟨past, log, work, r, outcome, passes, ends, ran⟩ := ended
    rw [ran] at done
    cases ends with
    | resting rest =>
      cases done
      exact (passes.ledger linked).halted linked rest
    | failing | refused | straying | sinking => cases done

end Run

namespace Mill

open Run.Gate.graph (node)

/-- A wheel turns once although it feeds itself; the stones behind it wait for each other. -/
def graph : Graph Float where
  nodes := [
    node "start" (.start {}) [] ["out"],
    node "wheel" (.merge { strategy := .proper .any }) ["water", "turn"] ["out"],
    node "upper" (.merge { strategy := .proper .all }) ["drive", "grind"] ["out"],
    node "lower" (.sequence {}) ["in"] ["out"]]
  edges := [
    { id := "fall", source := ⟨"start", "out"⟩, target := ⟨"wheel", "water"⟩ },
    { id := "turn", source := ⟨"wheel", "out"⟩, target := ⟨"wheel", "turn"⟩ },
    { id := "drive", source := ⟨"wheel", "out"⟩, target := ⟨"upper", "drive"⟩ },
    { id := "down", source := ⟨"upper", "out"⟩, target := ⟨"lower", "in"⟩ },
    { id := "up", source := ⟨"lower", "out"⟩, target := ⟨"upper", "grind"⟩ }]

def input : Run.Input Random.Stream Float where
  plan := ⟨graph, .int 10⟩
  parameters := []
  stream := nodeStream 7

end Mill

theorem Run.execute_stops_mill : Plan.ofGraph Mill.graph (.int 10) = .ok Mill.input.plan ∧
    ∃ report, execute Mill.input = .ok report ∧ report.Halted Mill.graph ∧
      report.states.find? "wheel" = some .done ∧ report.states.find? "upper" = some .pending := by
  have made : Plan.ofGraph Mill.graph (.int 10) = .ok Mill.input.plan := rfl
  obtain ⟨report, ran⟩ : ∃ report, execute Mill.input = .ok report := ⟨_, rfl⟩
  obtain ⟨_, _, halted⟩ := execute_stops made Mill.input.parameters Mill.input.stream Mill.input.host
  refine ⟨made, report, ran, halted report ran, ?_⟩
  cases ran
  exact ⟨rfl, rfl⟩

end Dungeon
