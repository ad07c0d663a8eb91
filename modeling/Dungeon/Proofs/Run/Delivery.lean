import Dungeon.Proofs.Run.Completion

/-!
# What is delivered

A node that waits for all its edges gets what was sent along them, one fragment for each edge that
brought one, in the order of its input ports. An early merge gets the first fragment that was sent
to it and no other. The winners of a run are the sources of those first fragments.
-/

namespace Dungeon

variable {α : Type}

/-- Two tests that split a list split what is kept of it. -/
theorem filterMap_split_perm {β γ : Type} {xs : List β} {q : β → Bool} {f a b : β → Option γ}
    (yes : ∀ x ∈ xs, q x = true → f x = a x ∧ b x = none)
    (no : ∀ x ∈ xs, q x = false → f x = b x) :
    (xs.filterMap f).Perm ((xs.filter q).filterMap a ++ xs.filterMap b) := by
  induction xs with
  | nil => exact .refl _
  | cons x rest ih =>
    have rest_split := ih (fun y hy => yes y (List.mem_cons_of_mem _ hy))
      fun y hy => no y (List.mem_cons_of_mem _ hy)
    cases hq : q x with
    | true =>
      obtain ⟨same, nothing⟩ := yes x List.mem_cons_self hq
      rw [List.filter_cons_of_pos hq, List.filterMap_cons, List.filterMap_cons,
        List.filterMap_cons_none nothing, same]
      cases a x with
      | none => exact rest_split
      | some y => exact rest_split.cons y
    | false =>
      have same := no x List.mem_cons_self hq
      rw [List.filter_cons_of_neg (by simp [hq]), List.filterMap_cons, List.filterMap_cons, same]
      cases b x with
      | none => exact rest_split
      | some y => exact (rest_split.cons y).trans List.perm_middle.symm

namespace Arrival

/-- What arrivals are sorted by. -/
def rank (a : Arrival α) : Nat × String := (a.port, a.edgeId)

theorem before_eq (a b : Arrival α) : a.before b = numberThenText a.rank b.rank := rfl

theorem before_total (a b : Arrival α) : a.before b ∨ b.before a :=
  numberThenText_total a.rank b.rank

theorem before_trans (a b c : Arrival α) (hab : a.before b) (hbc : b.before c) : a.before c := by
  rw [before_eq] at *
  exact numberThenText_trans hab hbc

theorem before_of_lt {a b : Arrival α} (h : a.port < b.port) : a.before b := by
  rw [before_eq, numberThenText_iff]
  exact .inl h

theorem port_eq_of_before {a b : Arrival α} (hab : a.before b) (hba : b.before a) :
    a.port = b.port :=
  congrArg Prod.fst (numberThenText_antisymm hab hba : a.rank = b.rank)

end Arrival

namespace Plan

/-- The place of an edge among the input ports of its target. -/
def inputPlace (p : Plan α) (e : Edge α) : Nat := (p.inputIndex? e.target).getD 0

/-- The edges into a node, in the order of its input ports. -/
def entering (p : Plan α) (id : String) : List (Edge α) :=
  sortBy (fun e f => p.inputPlace e ≤ p.inputPlace f)
    (p.graph.edges.filter fun e => e.target.node == id)

theorem entering_perm (p : Plan α) (id : String) :
    (p.entering id).Perm (p.graph.edges.filter fun e => e.target.node == id) :=
  sortBy_perm _ _

theorem mem_entering {p : Plan α} {id : String} {e : Edge α} :
    e ∈ p.entering id ↔ e ∈ p.graph.edges ∧ e.target.node = id := by
  rw [(p.entering_perm id).mem_iff, List.mem_filter, beq_iff_eq]

end Plan

namespace Graph.Sound

variable {g : Graph α} (sound : g.Sound) (retries : Value α)
include sound

theorem inputPlace_inj {e f : Edge α} (he : e ∈ g.edges) (hf : f ∈ g.edges)
    (same : e.target.node = f.target.node)
    (place : Plan.inputPlace ⟨g, retries⟩ e = Plan.inputPlace ⟨g, retries⟩ f) : e = f := by
  obtain ⟨i, at_e⟩ := (sound.closed retries).ports e he
  obtain ⟨j, at_f⟩ := (sound.closed retries).ports f hf
  have index : i = j := by simpa [Plan.inputPlace, at_e, at_f] using place
  exact sound.edge_eq_of_inputIndex? retries he hf same (by rw [at_e, at_f, index])

/-- No two edges into a node come to the same port. -/
theorem entering_pairwise (id : String) : (Plan.entering ⟨g, retries⟩ id).Pairwise fun e f =>
    Plan.inputPlace ⟨g, retries⟩ e < Plan.inputPlace ⟨g, retries⟩ f := by
  have sorted : (Plan.entering ⟨g, retries⟩ id).Pairwise fun e f =>
      decide (Plan.inputPlace ⟨g, retries⟩ e ≤ Plan.inputPlace ⟨g, retries⟩ f) = true :=
    sortBy_pairwise (fun e f => by simpa using Nat.le_total _ _)
      (fun a b c hab hbc => by simp only [decide_eq_true_eq] at *; omega) _
  have distinct : (Plan.entering ⟨g, retries⟩ id).Nodup :=
    (Plan.entering_perm _ id).nodup_iff.2 ((sound.edges.of_map Edge.id).filter _)
  refine (sorted.and distinct).imp_of_mem fun {e f} he hf ⟨le, ne⟩ => ?_
  obtain ⟨he, target_e⟩ := Plan.mem_entering.1 he
  obtain ⟨hf, target_f⟩ := Plan.mem_entering.1 hf
  have different : Plan.inputPlace ⟨g, retries⟩ e ≠ Plan.inputPlace ⟨g, retries⟩ f := fun same =>
    ne (sound.inputPlace_inj retries he hf (target_e.trans target_f.symm) same)
  exact Nat.lt_of_le_of_ne (of_decide_eq_true le) different

end Graph.Sound

namespace Run

/-- What a node that has run sent along an edge. -/
def emitted (past : List (Execution α)) (e : Edge α) : Option (Fragment α) :=
  (past.find? fun x => x.id == e.source.node).bind fun x => (x.outcome.find? e.source.port).join

/-- What was sent along an edge, with the edge. -/
def along (past : List (Execution α)) (e : Edge α) : Option (Edge α × Fragment α) :=
  (emitted past e).map fun f => (e, f)

/-- What was sent to a node, in the order in which nodes ran. -/
def brought (p : Plan α) (past : List (Execution α)) (id : String) : List (Edge α × Fragment α) :=
  (sent p past).filter fun s => s.1.target.node == id

variable {p : Plan α} {past : List (Execution α)} {log : List (Delivery α)} {r : Run α}

theorem carried_deliveries (p : Plan α) (id : String) (out : Outcome α) :
    carried (deliveries p id out) =
      (p.outgoing id).filterMap fun e => (out.find? e.source.port).join.map fun f => (e, f) := by
  rw [carried, deliveries, List.filterMap_map]
  rfl

/-- Where no node has run twice, what was sent is what the edges brought, each edge once. -/
theorem sent_perm (once : (past.map Execution.id).Nodup) :
    (sent p past).Perm (p.graph.edges.filterMap (along past)) := by
  induction past with
  | nil => simp [sent, along, emitted]
  | cons x rest ih =>
    obtain ⟨new, once⟩ := List.nodup_cons.1 once
    -- The first node does not run again, so nothing later comes along its edges.
    have silent (e : Edge α) (source : e.source.node = x.id) : along rest e = none := by
      have none_found : (rest.find? fun y => y.id == e.source.node) = none := by
        refine List.find?_eq_none.2 fun y hy same => new ?_
        have same : y.id = e.source.node := by simpa using same
        exact source ▸ same ▸ List.mem_map_of_mem hy
      simp [along, emitted, none_found]
    have split : sent p (x :: rest) = carried (deliveries p x.id x.outcome) ++ sent p rest :=
      carried_append _ _
    rw [split, carried_deliveries]
    refine (((sortBy_perm _ _).filterMap _).append (ih once)).trans (filterMap_split_perm ?_ ?_).symm
    · intro e _ source
      have source : e.source.node = x.id := by simpa using source
      refine ⟨?_, silent e source⟩
      simp [along, emitted, source]
    · intro e _ other
      have other : x.id ≠ e.source.node := by simpa using Ne.symm (by simpa using other)
      simp [along, emitted, other]

/-- Of the settled deliveries to a node those with a fragment are what was sent to it. -/
theorem Ledger.sentTo_eq (books : Ledger p past log [] r) (id : String) :
    sentTo log id = brought p past id := by
  have carried_eq := books.carried
  rw [List.append_nil] at carried_eq
  rw [sentTo, carried_eq, brought]

theorem Ledger.sentTo_perm (books : Ledger p past log [] r) (id : String) :
    (sentTo log id).Perm ((p.entering id).filterMap (along past)) := by
  have kept : (p.graph.edges.filterMap (along past)).filter (fun s => s.1.target.node == id) =
      (p.graph.edges.filter fun e => e.target.node == id).filterMap (along past) := by
    rw [List.filter_filterMap, List.filterMap_filter]
    refine List.filterMap_congr fun e _ => ?_
    cases sent : emitted past e <;> simp [along, sent, Option.filter]
  rw [books.sentTo_eq]
  refine ((sent_perm books.once).filter _).trans ?_
  rw [kept]
  exact ((p.entering_perm id).filterMap _).symm

/-- A node that takes all fragments has one for each edge that brought one, in the order of its
input ports. -/
theorem Ledger.incoming_late {g : Graph α} {retries : Value α} (sound : g.Sound)
    (books : Ledger ⟨g, retries⟩ past log [] r) {id : String} {state : Progress α}
    (found : r.progress.find? id = some state)
    (late : Plan.firesEarly ⟨g, retries⟩ id = false) :
    r.incoming id = (Plan.entering ⟨g, retries⟩ id).filterMap (emitted past) := by
  let p : Plan α := ⟨g, retries⟩
  have landed : state.arrivals = (sentTo log id).map (arrivalOf p) := by
    rw [(books.accounts id state found).arrivals, Plan.admits_late _ late]
  have ports : (((p.entering id).filterMap (along past)).map (arrivalOf p)).Pairwise
      fun a b => a.port < b.port := by
    rw [List.pairwise_map, List.pairwise_filterMap]
    refine (sound.entering_pairwise retries id).imp fun {e f} lt => ?_
    intro s hs t ht
    obtain ⟨_, _, rfl⟩ := Option.map_eq_some_iff.1 hs
    obtain ⟨_, _, rfl⟩ := Option.map_eq_some_iff.1 ht
    exact lt
  have sorted : sortBy Arrival.before state.arrivals =
      ((p.entering id).filterMap (along past)).map (arrivalOf p) := by
    have perm := (sortBy_perm Arrival.before state.arrivals).trans
      (landed ▸ (books.sentTo_perm id).map (arrivalOf p))
    -- Arrivals that are in no strict order come to one port, and so are the same arrival.
    refine perm.eq_of_pairwise ?_ (sortBy_pairwise Arrival.before_total Arrival.before_trans _)
      (ports.imp Arrival.before_of_lt)
    intro a b ha hb hab hba
    have distinct := List.pairwise_map.2 (ports.imp Nat.ne_of_lt)
    exact List.inj_on_of_nodup_map distinct (perm.mem_iff.1 ha) hb (Arrival.port_eq_of_before hab hba)
  rw [incoming_eq found, sorted, List.map_map, List.map_filterMap]
  refine List.filterMap_congr fun e _ => ?_
  cases sent : emitted past e <;> simp [along, sent, arrivalOf]

/-- An early merge keeps the first fragment that was sent to it. -/
theorem Ledger.incoming_early (books : Ledger p past log [] r) {id : String} {state : Progress α}
    (found : r.progress.find? id = some state) (early : p.firesEarly id = true) :
    r.incoming id = ((brought p past id).take 1).map Prod.snd := by
  have landed := (books.accounts id state found).arrivals
  rw [p.admits_early early, books.sentTo_eq] at landed
  rw [incoming_eq found, landed]
  cases brought p past id with
  | nil => rfl
  | cons s rest => rfl

/-- A node that is ready and takes all fragments has no open edge. -/
theorem Ledger.finished_sources (books : Ledger p past log [] r) {id : String}
    {state : Progress α} (found : r.progress.find? id = some state) (ready : state.state = .ready)
    (late : p.firesEarly id = false) {e : Edge α} (he : e ∈ p.graph.edges)
    (target : e.target.node = id) : r.finished e.source.node = true := by
  have active : ¬ Waiting p log id := fun h => by
    have pending := (books.accounts id state found).pending.2 h
    simp [ready] at pending
  have all_settled : p.inDegree id ≤ settledTo log id :=
    Nat.le_of_not_lt fun h => active ⟨h, fun early => by simp [late] at early⟩
  have entering : e ∈ p.graph.edges.filter fun e => e.target.node == id :=
    List.mem_filter.2 ⟨he, by simpa using target⟩
  have counted : (p.graph.edges.filter fun e => e.target.node == id).countP
      (fun e => r.finished e.source.node) = settledTo log id := by
    rw [List.countP_filter, books.settledTo_eq]
    simp only [Bool.and_comm]
  -- As many edges come from finished nodes as there are, so all of them do.
  have full : (p.graph.edges.filter fun e => e.target.node == id).countP
      (fun e => r.finished e.source.node) =
        (p.graph.edges.filter fun e => e.target.node == id).length := by
    refine Nat.le_antisymm List.countP_le_length ?_
    rw [counted, ← List.countP_eq_length_filter]
    exact all_settled
  exact List.countP_eq_length.1 full e entering

/-- Once something was sent to an early merge, it has that fragment and no other. -/
theorem Ledger.incoming_eq_first (books : Ledger p past log [] r) {id : String}
    (node : id ∈ p.graph.nodeIds) (early : p.firesEarly id = true) {e : Edge α} {f : Fragment α}
    (first : (brought p past id).head? = some (e, f)) : r.incoming id = [f] := by
  obtain ⟨state, found⟩ := books.find?_of_mem node
  obtain ⟨rest, split⟩ := List.head?_eq_some_iff.1 first
  rw [books.incoming_early found early, split]
  rfl

theorem brought_append (p : Plan α) (past more : List (Execution α)) (id : String) :
    brought p (past ++ more) id = brought p past id ++ brought p more id := by
  rw [brought, sent_append, List.filter_append]
  rfl

/-- The winners at the end are the sources of what came first to a merge that takes the first. -/
theorem Ledger.winners_eq (books : Ledger p past log [] r) (id : String) :
    r.winners.find? id = if p.strategy? id = some .first
      then (brought p past id).head?.map (·.1.source.node) else none := by
  rw [books.winners, books.sentTo_eq]

/-- In the end a merge that takes the first fragment has a winner iff it has run. -/
theorem Ledger.mem_winners {g : Graph α} {retries : Value α} (sound : g.Sound)
    (books : Ledger ⟨g, retries⟩ past log [] r) (rest : r.next? = none) {id : String} :
    id ∈ r.winners.keys ↔ r.state? id = some .done ∧
      ∃ n, g.node? id = some n ∧ n.strategy? = some .first := by
  rw [Table.mem_keys_iff, books.winners_eq]
  constructor
  · rintro ⟨w, won⟩
    split at won
    next first =>
      obtain ⟨n, mem, rfl⟩ := Plan.node_of_strategy? first
      have node : g.node? n.id = some n := sound.node?_iff.2 ⟨mem, rfl⟩
      refine ⟨?_, n, node, (sound.strategy?_of_node? node retries).symm.trans first⟩
      refine (books.done_or_pruned sound rest mem).resolve_right fun pruned => ?_
      obtain ⟨state, found, is_pruned⟩ := Option.map_eq_some_iff.1 pruned
      have unsent := ((books.accounts _ _ found).pruned.1 is_pruned).2.2
      rw [books.sentTo_eq] at unsent
      simp [unsent] at won
    next => cases won
  · rintro ⟨done, n, node, first⟩
    rw [if_pos ((sound.strategy?_of_node? node retries).trans first)]
    obtain ⟨state, found, is_done⟩ := Option.map_eq_some_iff.1 done
    obtain ⟨mem, rfl⟩ := Graph.mem_of_node? node
    have fed := sound.inDegree_ne_zero retries mem (Node.kind_of_strategy? first)
    have some_sent := books.sentTo_ne_nil found (by simp [is_done]) (by simp [is_done]) fed
    rw [books.sentTo_eq] at some_sent
    obtain ⟨s, more, brought⟩ := List.exists_cons_of_ne_nil some_sent
    exact ⟨s.1.source.node, by rw [brought]; rfl⟩

section
variable {σ : Type} [Scalar α] [Source σ α] {input : Input σ α}

/-- Each execution of a trace started in a state that the run came to, on what had arrived there, and
its outcome is what the node's work gave. -/
theorem Reaches.recorded (closed : input.plan.Closed) (reached : Reaches input past r)
    {x : Execution α} (mem : x ∈ past) :
    ∃ before after r₀ n site, past = before ++ x :: after ∧ Reaches input before r₀ ∧
      r₀.next? = some x.id ∧ input.plan.graph.node? x.id = some n ∧
      x.incoming = r₀.incoming x.id ∧ input.work r₀ n = .ok x.outcome site := by
  induction reached with
  | initial => cases mem
  | @step past r₀ _ _ id n out reached next node worked settled ih =>
    rcases List.mem_append.1 mem with old | new
    · obtain ⟨before, after, r₁, m, site, split, earlier⟩ := ih old
      exact ⟨before, after ++ [⟨id, r₀.incoming id, out⟩], r₁, m, site, by rw [split]; simp, earlier⟩
    · rw [List.mem_singleton] at new
      subst new
      obtain ⟨log, books⟩ := reached.ledger closed
      obtain ⟨g, found, _, _⟩ := books.of_next? closed next
      obtain ⟨_, rfl⟩ := Graph.mem_of_node? node
      obtain ⟨site, done, _⟩ := performed found worked
      exact ⟨past, [], r₀, n, site, rfl, reached, next, node, rfl, done⟩

/-- Something was sent to every node that runs next, the start apart. -/
theorem Reaches.brought_of_next? {g : Graph α} {retries : Value α} {parameters : Bindings α}
    {stream : String → σ} {host : Host} (sound : g.Sound)
    (reached : Reaches (⟨⟨g, retries⟩, parameters, stream, host⟩ : Input σ α) past r) {id : String}
    {n : Node α} (next : r.next? = some id) (node : g.node? id = some n) (working : n.kind ≠ .start) :
    ∃ e f, (brought ⟨g, retries⟩ past id).head? = some (e, f) := by
  obtain ⟨log, books⟩ := reached.ledger (sound.closed retries)
  obtain ⟨state, found, ready, _⟩ := books.of_next? (sound.closed retries) next
  obtain ⟨mem, rfl⟩ := Graph.mem_of_node? node
  have fed := sound.inDegree_ne_zero retries mem working
  have some_sent := books.sentTo_ne_nil found (by simp [ready]) (by simp [ready]) fed
  rw [books.sentTo_eq] at some_sent
  obtain ⟨⟨e, f⟩, rest, split⟩ := List.exists_cons_of_ne_nil some_sent
  exact ⟨e, f, by rw [split]; rfl⟩

/-- A node that takes all fragments runs when its sources are finished, on what they sent. -/
theorem Reaches.runs_late {g : Graph α} {retries : Value α} {parameters : Bindings α}
    {stream : String → σ} {host : Host} (sound : g.Sound)
    (reached : Reaches (⟨⟨g, retries⟩, parameters, stream, host⟩ : Input σ α) past r) {id : String}
    (next : r.next? = some id) (late : Plan.firesEarly ⟨g, retries⟩ id = false) :
    (∀ e ∈ g.edges, e.target.node = id →
      r.state? e.source.node = some .done ∨ r.state? e.source.node = some .pruned) ∧
    r.incoming id = (Plan.entering ⟨g, retries⟩ id).filterMap (emitted past) := by
  obtain ⟨log, books⟩ := reached.ledger (sound.closed retries)
  obtain ⟨state, entry, ready, _⟩ := books.of_next? (sound.closed retries) next
  refine ⟨fun e he target => ?_, books.incoming_late sound entry late⟩
  have finished := books.finished_sources entry ready late he target
  simpa [Run.finished] using finished

/-- An early merge runs on what was sent to it first, and never takes anything else. -/
theorem Reaches.runs_early {g : Graph α} {retries : Value α} {parameters : Bindings α}
    {stream : String → σ} {host : Host} (sound : g.Sound)
    (reached : Reaches (⟨⟨g, retries⟩, parameters, stream, host⟩ : Input σ α) past r) {id : String}
    {n : Node α} (next : r.next? = some id) (node : g.node? id = some n)
    (working : n.kind ≠ .start) (early : Plan.firesEarly ⟨g, retries⟩ id = true) :
    ∃ e f, (brought ⟨g, retries⟩ past id).head? = some (e, f) ∧ r.incoming id = [f] ∧
      ∀ more r', Reaches (⟨⟨g, retries⟩, parameters, stream, host⟩ : Input σ α) (past ++ more) r' →
        r'.incoming id = [f] := by
  obtain ⟨log, books⟩ := reached.ledger (sound.closed retries)
  obtain ⟨_, _, _, listed⟩ := books.of_next? (sound.closed retries) next
  obtain ⟨e, f, first⟩ := reached.brought_of_next? sound next node working
  refine ⟨e, f, first, books.incoming_eq_first listed early first, fun more r' later => ?_⟩
  obtain ⟨log', books'⟩ := later.ledger (sound.closed retries)
  have still : (brought ⟨g, retries⟩ (past ++ more) id).head? = some (e, f) := by
    rw [brought_append, List.head?_append, first]
    rfl
  exact books'.incoming_eq_first listed early still

/-- The winner of a merge sent the fragment that the merge ran on. -/
theorem Reaches.delivered_by_winner {g : Graph α} {retries : Value α} {parameters : Bindings α}
    {stream : String → σ} {host : Host} (sound : g.Sound)
    (reached : Reaches (⟨⟨g, retries⟩, parameters, stream, host⟩ : Input σ α) past r)
    (rest : r.next? = none) {id w : String} (won : r.winners.find? id = some w) :
    ∃ x ∈ past, ∃ e f, x.id = id ∧ x.incoming = [f] ∧
      (brought ⟨g, retries⟩ past id).head? = some (e, f) ∧ e.source.node = w := by
  obtain ⟨log, books⟩ := reached.ledger (sound.closed retries)
  obtain ⟨done, n, node, takes⟩ :=
    (books.mem_winners sound rest).1 (Table.mem_keys_iff.2 ⟨w, won⟩)
  have strategy := (sound.strategy?_of_node? node retries).trans takes
  obtain ⟨x, mem, rfl⟩ := List.mem_map.1 ((books.done id).1 done)
  obtain ⟨before, after, r₀, _, _, split, reached₀, next, _, incoming, _⟩ :=
    reached.recorded (sound.closed retries) mem
  obtain ⟨e, f, first, taken, _⟩ := reached₀.runs_early sound next node
    (Node.kind_of_strategy? takes) (firesEarly_of_first strategy)
  have still : (brought ⟨g, retries⟩ past x.id).head? = some (e, f) := by
    rw [split, brought_append, List.head?_append, first]
    rfl
  refine ⟨x, mem, e, f, rfl, incoming.trans taken, still, ?_⟩
  rw [books.winners_eq, if_pos strategy, still] at won
  exact Option.some.inj won

/-- On a graph that was accepted no fragment is lost, doubled or delivered early. A node that takes all
fragments runs when its sources are finished, on one fragment for each edge that brought one, in the
order of its input ports. A merge that takes any fragment, or the first, runs on the one that was sent
to it first, and drops all others. In the end the merges that take the first fragment and have run,
and no other nodes, have one winner each: the node that sent what they ran on. -/
theorem deliveries_exact {g : Graph α} {found : Graph.Report} (valid : g.ensureValid = .ok found)
    (retries : Value α) (parameters : Bindings α) (stream : String → σ) (host : Host) :
    ∃ plan, Plan.ofValid g retries = .ok plan ∧
      (∀ past r id n, Reaches (⟨plan, parameters, stream, host⟩ : Input σ α) past r →
        r.next? = some id → g.node? id = some n → n.kind ≠ .start →
        (n.strategy? ≠ some .any → n.strategy? ≠ some .first →
          (∀ e ∈ g.edges, e.target.node = id →
            r.state? e.source.node = some .done ∨ r.state? e.source.node = some .pruned) ∧
          r.incoming id = (plan.entering id).filterMap (emitted past)) ∧
        (n.strategy? = some .any ∨ n.strategy? = some .first →
          ∃ e f, (brought plan past id).head? = some (e, f) ∧ r.incoming id = [f] ∧
            ∀ more r', Reaches (⟨plan, parameters, stream, host⟩ : Input σ α) (past ++ more) r' →
              r'.incoming id = [f])) ∧
      ∀ report, execute (⟨plan, parameters, stream, host⟩ : Input σ α) = .ok report →
        ∃ past r, Reaches (⟨plan, parameters, stream, host⟩ : Input σ α) past r ∧
          report = r.toReport ∧ report.data.winners.keys.Nodup ∧
          (∀ id, id ∈ report.data.winners.keys ↔ report.states.find? id = some .done ∧
            ∃ n, g.node? id = some n ∧ n.strategy? = some .first) ∧
          ∀ id w, report.data.winners.find? id = some w →
            ∃ x ∈ past, ∃ e f, x.id = id ∧ x.incoming = [f] ∧
              (brought plan past id).head? = some (e, f) ∧ e.source.node = w := by
  have sound := Graph.sound_of_ensureValid valid
  refine ⟨_, Graph.Sound.plan_of_ensureValid retries valid, ?_, ?_⟩
  · intro past r id n reached next node working
    have strategy := sound.strategy?_of_node? node retries
    constructor
    · intro not_any not_first
      refine reached.runs_late sound next ?_
      rw [← Bool.not_eq_true, Plan.firesEarly_iff, strategy, not_or]
      exact ⟨not_any, not_first⟩
    · intro early
      rw [← strategy, ← Plan.firesEarly_iff] at early
      exact reached.runs_early sound next node working early
  · intro report ran
    obtain ⟨past, r, reached, rest, rfl⟩ := reaches_of_execute (sound.closed retries) ran
    obtain ⟨log, books⟩ := reached.ledger (sound.closed retries)
    refine ⟨past, r, reached, rfl, books.winnersOnce, fun id => ?_, fun id w won => ?_⟩
    · rw [toReport_states]
      exact books.mem_winners sound rest
    · exact reached.delivered_by_winner sound rest won

end

theorem deliveries_exact_gate : ∃ report past, execute Gate.input = .ok report ∧
    report.data.winners.find? "join" = some "twice" ∧
    ∃ x ∈ past, ∃ e f, x.id = "join" ∧ x.incoming = [f] ∧
      (brought Gate.input.plan past "join").head? = some (e, f) ∧ e.source.node = "twice" := by
  obtain ⟨found, valid⟩ : ∃ found, Gate.graph.ensureValid = .ok found := ⟨_, rfl⟩
  obtain ⟨report, ran, won⟩ : ∃ report, execute Gate.input = .ok report ∧
      report.data.winners.find? "join" = some "twice" := ⟨_, rfl, rfl⟩
  obtain ⟨plan, made, _, winners⟩ :=
    deliveries_exact valid Gate.input.plan.retries Gate.input.parameters Gate.input.stream Gate.input.host
  cases made.symm.trans (Graph.Sound.plan_of_ensureValid _ valid)
  obtain ⟨past, _, _, _, _, _, delivered⟩ := winners report ran
  exact ⟨report, past, ran, won, delivered "join" "twice" won⟩

end Run

end Dungeon
