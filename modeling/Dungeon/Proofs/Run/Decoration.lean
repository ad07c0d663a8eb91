import Dungeon.Proofs.Run.Apart
import Dungeon.Proofs.Run.Growth
import Dungeon.Proofs.Run.Reordering

/-!
# Decoration

A content node that nothing leads on from decorates a graph. Whatever its settings are and wherever its
id stands among the others, the run goes as it goes without it: all other nodes draw, place and connect
the same, and the layout differs by what the further node puts into its room.
-/

namespace Dungeon

variable {σ α : Type}

/-- The second graph has one content node more, and edges that lead from nodes of the first to it. -/
structure Graph.Decorates (c : Node α) (extra : List (Edge α)) (g h : Graph α) : Prop where
  content : c.kind.isContent = true
  nodes : h.nodes.Perm (c :: g.nodes)
  edges : h.edges.Perm (extra ++ g.edges)
  leads : ∀ e ∈ extra, e.source.node ∈ g.nodeIds ∧ e.target.node = c.id

/-- Content waits for all edges. -/
theorem Node.strategy?_of_content {c : Node α} (content : c.kind.isContent = true) :
    c.strategy? = none := by
  unfold Node.strategy?
  unfold Node.kind at content
  split
  next data =>
    rw [data] at content
    cases content
  next => rfl

namespace Plan

theorem outgoing_pairwise (p : Plan α) (id : String) :
    (p.outgoing id).Pairwise fun e f => p.leavesBefore e f = true :=
  sortBy_pairwise p.leavesBefore_total p.leavesBefore_trans _

end Plan

namespace Graph.Decorates

variable {c : Node α} {extra : List (Edge α)} {g h : Graph α} (more : g.Decorates c extra h)
  (sound : g.Sound) (sound' : h.Sound)
include more

theorem mem_nodes {n : Node α} : n ∈ h.nodes ↔ n = c ∨ n ∈ g.nodes := by
  rw [more.nodes.mem_iff, List.mem_cons]

theorem mem_edges {e : Edge α} : e ∈ h.edges ↔ e ∈ extra ∨ e ∈ g.edges := by
  rw [more.edges.mem_iff, List.mem_append]

theorem mem_nodeIds {id : String} (other : id ≠ c.id) : id ∈ h.nodeIds ↔ id ∈ g.nodeIds := by
  rw [Graph.mem_nodeIds, Graph.mem_nodeIds]
  constructor
  · rintro ⟨n, node, rfl⟩
    exact ⟨n, (more.mem_nodes.1 node).resolve_left fun same => other (congrArg Node.id same), rfl⟩
  · rintro ⟨n, node, rfl⟩
    exact ⟨n, more.mem_nodes.2 (.inr node), rfl⟩

theorem inDegree_eq (retries : Value α) {id : String} (other : id ≠ c.id) :
    Plan.inDegree ⟨h, retries⟩ id = Plan.inDegree ⟨g, retries⟩ id := by
  have none_new : extra.countP (fun e => e.target.node == id) = 0 := by
    refine List.countP_eq_zero.2 fun e new => ?_
    simp [(more.leads e new).2, other.symm]
  have counted := more.edges.countP_eq fun e => e.target.node == id
  rwa [List.countP_append, none_new, Nat.zero_add] at counted

include sound'

theorem new : c.id ∉ g.nodeIds := by
  have ids := (more.nodes.map Node.id).nodup_iff.1 sound'.nodes
  rw [Graph.mem_nodeIds]
  rintro ⟨n, node, same⟩
  exact (List.nodup_cons.1 ids).1 (List.mem_map.2 ⟨n, node, same⟩)

theorem node?_eq {id : String} (sound : g.Sound) (other : id ≠ c.id) : h.node? id = g.node? id := by
  refine Option.ext fun n => ?_
  rw [sound'.node?_iff, sound.node?_iff, more.mem_nodes]
  constructor
  · rintro ⟨rfl | node, named⟩
    · exact absurd named.symm other
    · exact ⟨node, named⟩
  · rintro ⟨node, named⟩
    exact ⟨.inr node, named⟩

/-- Nothing leads on from the further node. -/
theorem source_ne (sound : g.Sound) {e : Edge α} (edge : e ∈ h.edges) : e.source.node ≠ c.id := by
  have inside : e.source.node ∈ g.nodeIds := by
    rcases more.mem_edges.1 edge with new | old
    · exact (more.leads e new).1
    · exact Graph.mem_nodeIds_iff_node?.2 ((sound.sources e old).imp fun _ there => there.1)
  exact fun same => more.new sound' (same ▸ inside)

theorem target_ne (sound : g.Sound) {e : Edge α} (edge : e ∈ g.edges) : e.target.node ≠ c.id := by
  have inside : e.target.node ∈ g.nodeIds :=
    Graph.mem_nodeIds_iff_node?.2 ((sound.targets e edge).imp fun _ there => there.1)
  exact fun same => more.new sound' (same ▸ inside)

/-- What only another id decides is found as before. -/
theorem findSome?_eq {β : Type} {f : Node α → Option β} {id : String} (other : id ≠ c.id)
    (only : ∀ n : Node α, n.id ≠ id → f n = none) :
    h.nodes.reverse.findSome? f = g.nodes.reverse.findSome? f := by
  have owner {x : Node α} (given : (f x).isSome) : x.id = id := by
    by_contra different
    rw [only x different] at given
    cases given
  have perm : h.nodes.reverse.Perm (c :: g.nodes.reverse) :=
    ((List.reverse_perm _).trans more.nodes).trans ((List.reverse_perm _).symm.cons c)
  rw [findSome?_perm perm, List.findSome?_cons, only c other.symm]
  intro x hx y hy fx fy
  exact sound'.node_inj (List.mem_reverse.1 hx) (List.mem_reverse.1 hy)
    ((owner fx).trans (owner fy).symm)

variable (retries : Value α)

theorem indexOf?_eq (ports : Node α → List (Port α)) {ref : PortRef} (other : ref.node ≠ c.id) :
    Plan.indexOf? ⟨h, retries⟩ ports ref = Plan.indexOf? ⟨g, retries⟩ ports ref :=
  more.findSome?_eq sound' other fun _ different => if_neg different

theorem strategy?_eq {id : String} (other : id ≠ c.id) :
    Plan.strategy? ⟨h, retries⟩ id = Plan.strategy? ⟨g, retries⟩ id := by
  refine more.findSome?_eq sound' other fun n different => ?_
  cases n.data <;> simp [different]

theorem leavesBefore_eq {e f : Edge α} (he : e.source.node ≠ c.id) (hf : f.source.node ≠ c.id) :
    Plan.leavesBefore ⟨h, retries⟩ e f = Plan.leavesBefore ⟨g, retries⟩ e f := by
  simp only [Plan.leavesBefore_eq, Plan.leaveRank, more.indexOf?_eq sound' retries _ he,
    more.indexOf?_eq sound' retries _ hf]

include sound

/-- The edges to other nodes are those of the first graph. -/
theorem edges_perm : (h.edges.filter fun e => e.target.node ≠ c.id).Perm g.edges := by
  have none_new : extra.filter (fun e => e.target.node ≠ c.id) = [] := by
    refine List.filter_eq_nil_iff.2 fun e new => ?_
    simp [(more.leads e new).2]
  have all_old : g.edges.filter (fun e => e.target.node ≠ c.id) = g.edges := by
    refine List.filter_eq_self.2 fun e old => ?_
    simpa using more.target_ne sound' sound old
  have perm := more.edges.filter fun e => e.target.node ≠ c.id
  rwa [List.filter_append, none_new, all_old, List.nil_append] at perm

/-- The edges to other nodes leave a node as before. -/
theorem outgoing_eq {id : String} (other : id ≠ c.id) :
    (Plan.outgoing ⟨h, retries⟩ id).filter (fun e => e.target.node ≠ c.id) =
      Plan.outgoing ⟨g, retries⟩ id := by
  have perm : ((Plan.outgoing ⟨h, retries⟩ id).filter fun e => e.target.node ≠ c.id).Perm
      (Plan.outgoing ⟨g, retries⟩ id) := by
    refine ((Plan.outgoing_perm _ id).filter _).trans (.trans ?_ (Plan.outgoing_perm _ id).symm)
    rw [List.filter_comm]
    exact (more.edges_perm sound sound').filter _
  have sorted : (Plan.outgoing ⟨h, retries⟩ id).Pairwise fun e f =>
      Plan.leavesBefore ⟨g, retries⟩ e f = true := by
    refine (Plan.outgoing_pairwise _ id).imp_of_mem fun he hf before => ?_
    have he := (Plan.mem_outgoing.1 he).2
    have hf := (Plan.mem_outgoing.1 hf).2
    rwa [← more.leavesBefore_eq sound' retries (he.trans_ne other) (hf.trans_ne other)]
  refine perm.eq_of_pairwise ?_ (sorted.filter _) (Plan.outgoing_pairwise _ id)
  -- Edges that are in no strict order share an id, and so are the same edge.
  intro e f he hf hef hfe
  exact List.inj_on_of_nodup_map sound.edges (Plan.mem_outgoing.1 (perm.mem_iff.1 he)).1
    (Plan.mem_outgoing.1 hf).1 (Plan.id_eq_of_leavesBefore hef hfe)

theorem plans_agree : Plan.AgreeApart c.id ⟨g, retries⟩ ⟨h, retries⟩ where
  retries := rfl
  new := more.new sound'
  silent := by
    have none_leave : (h.edges.filter fun e => e.source.node == c.id) = [] := by
      refine List.filter_eq_nil_iff.2 fun e edge => ?_
      simpa using more.source_ne sound' sound edge
    rw [Plan.outgoing, none_leave]
    rfl
  late := by
    have waits : Plan.strategy? ⟨h, retries⟩ c.id = none :=
      (sound'.strategy?_eq (more.mem_nodes.2 (.inl rfl)) retries).trans
        (Node.strategy?_of_content more.content)
    rw [Plan.firesEarly, waits]
  nodeIds _ other := more.mem_nodeIds other
  nodes _ other := more.node?_eq sound' sound other
  outgoing _ other := more.outgoing_eq sound sound' retries other
  inDegree _ other := more.inDegree_eq retries other
  ports _ other := more.indexOf?_eq sound' retries Node.inputs other
  strategies _ other := more.strategy?_eq sound' retries other

end Graph.Decorates

namespace Run

/-- The inputs differ in the node `c` of the second plan. -/
structure Input.AgreeApart (c : String) (input input' : Input σ α) : Prop where
  plan : input.plan.AgreeApart c input'.plan
  parameters : input'.parameters = input.parameters
  stream : input'.stream = input.stream
  host : input'.host = input.host

theorem Input.AgreeApart.job {c : String} {input input' : Input σ α}
    (inputs : input.AgreeApart c input') (n : Node α) : input'.job n = input.job n := by
  simp only [Input.job, inputs.parameters, inputs.plan.retries]

variable [Scalar α] [Source σ α]

/-- Both runs agree on all nodes but `c`, on all that is drafted but content, and on what each other
node has contributed. -/
structure Decorated (input input' : Input σ α) (c : Node α) (past past' : List (Execution α))
    (r s : Run α) (parts : List (Node α × Contribution α)) : Prop where
  agree : AgreeApart c.id r s
  plain : r.draft.plain = s.draft.plain
  grown : Grown input past r (parts.filter fun x => x.1.id ≠ c.id)
  grown' : Grown input' past' s parts

variable {input input' : Input σ α} {c : Node α} {past past' : List (Execution α)}
  {r s s' t : Run α} {parts : List (Node α × Contribution α)}

theorem decorated_initial (inputs : input.AgreeApart c.id input') :
    Decorated input input' c [] [] (initial input.plan) (initial input'.plan) [] where
  agree := initial_apart inputs.plan
  plain := by
    obtain ⟨_, start, _⟩ := initial_eq input.plan
    obtain ⟨_, start', _⟩ := initial_eq input'.plan
    rw [start, start']
  grown := grown_initial _
  grown' := grown_initial _

namespace Decorated

variable (inputs : input.AgreeApart c.id input')
  (both : Decorated input input' c past past' r s parts) {log' : List (Delivery α)}
  (books' : Ledger input'.plan past' log' [] s) {out : Outcome α}
include inputs both books'

/-- When the further node runs, nothing happens in the first run. -/
theorem own_step (closed' : input'.plan.Closed) (content : c.kind.isContent = true)
    (node : input'.plan.graph.node? c.id = some c) (next : s.next? = some c.id)
    (worked : perform input' (s.setState c.id .executing) c = .ok (t, out))
    (settled : settleAll input'.plan input'.host.nesting
      (deliveries input'.plan c.id out) t = .ok s') :
    ∃ k, Decorated input input' c past (past' ++ [⟨c.id, s.incoming c.id, out⟩]) r s'
      (parts ++ [(c, k)]) := by
  obtain ⟨g, found, _, _⟩ := books'.of_next? closed' next
  obtain ⟨site, done, rfl⟩ := performed found worked
  obtain ⟨k, gained, contributed, _⟩ := both.grown'.performs books' done
  have nothing : deliveries input'.plan c.id out = [] := by
    rw [deliveries, inputs.plan.silent]
    rfl
  rw [nothing, settleAll_nil] at settled
  cases settled
  refine ⟨k, {
    agree := ⟨fun id other => ?_, both.agree.winners, both.agree.pruned⟩
    plain := ?_
    grown := ?_
    grown' := both.grown'.snoc node contributed gained _ }⟩
  · rw [Table.find?_insert, if_neg other.symm]
    exact both.agree.progress id other
  · have plain : k.plain = {} := contributed.contributes.plain_of_content content
    dsimp only
    rw [gained, Draft.plain_gain, plain, Draft.gain_empty, both.plain]
  · rw [List.filter_append]
    simpa using both.grown

/-- The work of another node is the same in the first run: it draws from the same stream, on the same
fragments and on a draft that is alike. -/
theorem works {n : Node α} (other : n.id ≠ c.id) {site : Site σ α}
    (worked : input'.work s n = .ok out site) :
    ∃ k, site.draft = s.draft.gain k ∧
      (input.job n).Performed (CountRange.Draws σ) s.draft out k ∧
      input.work r n = .ok out ⟨r.draft.gain k, site.stream⟩ := by
  obtain ⟨k, gained, contributed, frame⟩ := both.grown'.performs books' worked
  have alike := frame r.draft (Draft.alike_of_plain both.plain.symm)
  rw [inputs.job, both.agree.incoming other, inputs.stream] at alike
  exact ⟨k, gained, inputs.job n ▸ contributed, alike⟩

/-- Another node does in the first run what it does in the second. -/
theorem other_step (closed : input.plan.Closed) (closed' : input'.plan.Closed)
    (reached : Reaches input past r) {n : Node α} (other : n.id ≠ c.id)
    (node : input'.plan.graph.node? n.id = some n) (next : s.next? = some n.id)
    (worked : perform input' (s.setState n.id .executing) n = .ok (t, out))
    (settled : settleAll input'.plan input'.host.nesting
      (deliveries input'.plan n.id out) t = .ok s') :
    ∃ past₁ r₁ k, Reaches input past₁ r₁ ∧
      Decorated input input' c past₁ (past' ++ [⟨n.id, s.incoming n.id, out⟩]) r₁ s'
        (parts ++ [(n, k)]) := by
  obtain ⟨log, books⟩ := reached.ledger closed
  have next_here := both.agree.next? closed closed' inputs.plan books books' other next
  have node_here : input.plan.graph.node? n.id = some n :=
    (inputs.plan.nodes n.id other).symm.trans node
  obtain ⟨g, found, ready, _⟩ := books.of_next? closed next_here
  have found' : s.progress.find? n.id = some g := (both.agree.progress n.id other).trans found
  obtain ⟨site, done, rfl⟩ := performed found' worked
  obtain ⟨k, gained, contributed, work_here⟩ := works inputs both books' other done
  have taken_here : input.host.refusal n.id = none := inputs.host ▸ taken_of_perform worked
  have performed_here : perform input (r.setState n.id .executing) n = _ :=
    perform_executing taken_here found
  rw [work_here] at performed_here
  have agree : AgreeApart c.id
      { r with
        progress := r.progress.insert n.id { g with state := .done }
        draft := r.draft.gain k, executions := r.executions + 1 }
      { s with
        progress := s.progress.insert n.id { g with state := .done }
        draft := site.draft, executions := s.executions + 1 } := by
    refine ⟨fun id apart => ?_, both.agree.winners, both.agree.pruned⟩
    rw [Table.find?_insert, Table.find?_insert, both.agree.progress id apart]
  have same_work : elsewhere c.id (deliveries input'.plan n.id out) =
      deliveries input.plan n.id out := by
    rw [deliveries, elsewhere_map, inputs.plan.outgoing n.id other, deliveries]
  obtain ⟨r₁, all, agree₁⟩ := settleAll_apart inputs.plan agree settled
  rw [same_work, inputs.host] at all
  have draft : r₁.draft = r.draft.gain k := draft_settleAll all
  have draft' : s'.draft = s.draft.gain k := (draft_settleAll settled).trans gained
  refine ⟨_, r₁, k, reached.step next_here node_here performed_here all, {
    agree := agree₁
    plain := by rw [draft, draft', Draft.plain_gain, Draft.plain_gain, both.plain]
    grown := ?_
    grown' := both.grown'.snoc node (inputs.job n ▸ contributed) draft' _ }⟩
  rw [List.filter_append, List.filter_singleton, decide_eq_true other]
  exact both.grown.snoc node_here (contributed.of_plain both.plain.symm) draft _

end Decorated

/-- To every state of the second run the first one has a state that is the same apart from `c`. -/
theorem Reaches.decorated (inputs : input.AgreeApart c.id input') (closed : input.plan.Closed)
    (closed' : input'.plan.Closed) (content : c.kind.isContent = true)
    (own : input'.plan.graph.node? c.id = some c) (reached : Reaches input' past' s) :
    ∃ past r parts, Reaches input past r ∧ Decorated input input' c past past' r s parts := by
  induction reached with
  | initial => exact ⟨[], _, [], .initial, decorated_initial inputs⟩
  | @step past' s t s' id n out reached' next node worked settled ih =>
    obtain ⟨past, r, parts, reached, both⟩ := ih
    obtain ⟨log', books'⟩ := reached'.ledger closed'
    obtain ⟨_, rfl⟩ := Graph.mem_of_node? node
    by_cases further : n.id = c.id
    · have same : n = c := Option.some.inj ((further ▸ node).symm.trans own)
      subst same
      obtain ⟨k, both⟩ := both.own_step inputs books' closed' content own next worked settled
      exact ⟨past, r, _, reached, both⟩
    · obtain ⟨past, r, k, reached, both⟩ :=
        both.other_step inputs books' closed closed' reached further node next worked settled
      exact ⟨past, r, _, reached, both⟩

end Run

/-- The second report says what the first one says, but for what the contribution has put into rooms
and added to the spawn points. -/
structure RunReport.DecoratedBy (own : Contribution α) (a b : RunReport α) : Prop where
  rooms : b.layout.rooms.map Room.bare = a.layout.rooms.map Room.bare
  entities : ∀ r ∈ a.layout.rooms, ∀ r' ∈ b.layout.rooms, r'.id = r.id →
    ∃ before after, r.entities = before ++ after ∧ r'.entities = before ++ own.into r.id ++ after
  spawnPoints : ∃ before after, a.layout.spawnPoints = before ++ after ∧
    b.layout.spawnPoints = before ++ own.spawnPoints ++ after
  connections : b.layout.connections = a.layout.connections
  exits : b.layout.exits = a.layout.exits
  playerStart : b.layout.playerStart = a.layout.playerStart
  startRoom : b.layout.startRoom = a.layout.startRoom
  warnings : b.warnings = a.warnings
  winners : b.data.winners = a.data.winners

/-- Where keys are distinct, at most one element is left out with a key. -/
theorem split_of_nodup {β κ : Type} [DecidableEq κ] {f : β → κ} {xs : List β}
    (nodup : (xs.map f).Nodup) (k : κ) :
    ∃ before own after, xs = before ++ own ++ after ∧
      xs.filter (fun x => f x ≠ k) = before ++ after ∧
      (own = [] ∧ k ∉ xs.map f ∨ ∃ x, own = [x] ∧ f x = k) := by
  induction xs with
  | nil => exact ⟨[], [], [], rfl, rfl, .inl ⟨rfl, by simp⟩⟩
  | cons x rest ih =>
    obtain ⟨new, nodup⟩ := List.nodup_cons.1 nodup
    by_cases same : f x = k
    · have others : rest.filter (fun y => f y ≠ k) = rest := by
        refine List.filter_eq_self.2 fun y member => ?_
        have different : f y ≠ k := fun h => new (same ▸ h ▸ List.mem_map_of_mem member)
        simpa using different
      refine ⟨[], [x], rest, rfl, ?_, .inr ⟨x, rfl, same⟩⟩
      rw [List.filter_cons_of_neg (by simpa using same), others]
      rfl
    · obtain ⟨before, own, after, split, kept, which⟩ := ih nodup
      refine ⟨x :: before, own, after, by rw [split]; rfl, ?_, ?_⟩
      · rw [List.filter_cons_of_pos (by simpa using same), kept]
        rfl
      · refine which.imp_left fun ⟨none_own, out⟩ => ⟨none_own, ?_⟩
        simpa [Ne.symm same] using out

namespace Run

variable [Scalar α] {r s : Run α}

/-- Drafts that agree but for content, and are sums of the same contributions but for one. -/
theorem decoratedBy_of_sums {before own after : List (Contribution α)} {k : Contribution α}
    (sums : r.draft.toLayout.Sums (before ++ after))
    (sums' : s.draft.toLayout.Sums (before ++ own ++ after))
    (into : ∀ id, own.flatMap (·.into id) = k.into id)
    (spawnPoints : own.flatMap Contribution.spawnPoints = k.spawnPoints)
    (plain : r.draft.plain = s.draft.plain) (winners : s.winners = r.winners) :
    RunReport.DecoratedBy k r.toReport s.toReport where
  rooms := (congrArg Draft.rooms plain).symm
  entities x member x' member' same := by
    refine ⟨before.flatMap (·.into x.id), after.flatMap (·.into x.id), ?_, ?_⟩
    · rw [sums.entities x member, List.flatMap_append]
    · rw [sums'.entities x' member', same, List.flatMap_append, List.flatMap_append, into]
  spawnPoints := by
    refine ⟨before.flatMap Contribution.spawnPoints, after.flatMap Contribution.spawnPoints, ?_, ?_⟩
    · exact sums.spawnPoints.trans List.flatMap_append
    · refine sums'.spawnPoints.trans ?_
      rw [List.flatMap_append, List.flatMap_append, spawnPoints]
  connections := (congrArg Draft.connections plain).symm
  exits := (congrArg Draft.exits plain).symm
  playerStart := by
    show s.draft.playerStart = r.draft.playerStart
    rw [← s.draft.playerStart_plain, ← plain, r.draft.playerStart_plain]
  startRoom := (congrArg Draft.startRoom plain).symm
  warnings := (congrArg Draft.warnings plain).symm
  winners := winners

variable [Source σ α]

/-- When the second run has ended, the reports differ by what the further node has contributed. -/
theorem Decorated.reports {input input' : Input σ α} {c : Node α} {past past' : List (Execution α)}
    {parts : List (Node α × Contribution α)} {log' : List (Delivery α)} {h : Graph α}
    {retries : Value α} (both : Decorated input input' c past past' r s parts)
    (plan : input'.plan = ⟨h, retries⟩) (books' : Ledger input'.plan past' log' [] s)
    (sound' : h.Sound) (rest : s.next? = none) (here : c ∈ h.nodes) :
    ∃ own, RunReport.DecoratedBy own r.toReport s.toReport ∧
      (s.toReport.states.find? c.id = some .done ∧ c.Contributes (CountRange.Draws σ) own ∨
        s.toReport.states.find? c.id = some .pruned ∧ own = {}) := by
  have node : input'.plan.graph.node? c.id = some c := by
    rw [plan]
    exact sound'.node?_iff.2 ⟨here, rfl⟩
  have once : (parts.map fun x => x.1.id).Nodup := both.grown'.ran ▸ books'.once
  obtain ⟨before, own, after, split, kept, which⟩ := split_of_nodup once c.id
  have sums := both.grown.sums
  have sums' := both.grown'.sums
  rw [kept, List.map_append] at sums
  rw [split, List.map_append, List.map_append] at sums'
  have ran_iff : s.state? c.id = some .done ↔ c.id ∈ parts.map fun x => x.1.id := by
    rw [books'.done, both.grown'.ran]
  rw [toReport_states]
  rcases which with ⟨rfl, idle⟩ | ⟨x, rfl, named⟩
  · refine ⟨{}, decoratedBy_of_sums sums sums' (fun _ => rfl) rfl both.plain both.agree.winners,
      .inr ⟨?_, rfl⟩⟩
    exact ((plan ▸ books').done_or_pruned sound' rest here).resolve_left (mt ran_iff.1 idle)
  · have part : x ∈ parts := by simp [split]
    have same : x.1 = c := by
      have found := both.grown'.nodes x part
      rw [named, node] at found
      exact (Option.some.inj found).symm
    refine ⟨x.2, decoratedBy_of_sums sums sums' (fun _ => by simp) (by simp) both.plain
      both.agree.winners, .inl ⟨?_, same ▸ both.grown'.contributes x part⟩⟩
    exact ran_iff.2 (named ▸ List.mem_map_of_mem part)

/-- When the run of a decorated graph returns, so does the run of the graph without the decoration. The
two agree on rooms, connections, exits, the start of the player, warnings, winners and the states of
all nodes of the first graph, and on all entities and spawn points but those that the further node has
contributed. -/
theorem execute_decorated {g h : Graph α} {found found' : Graph.Report} {c : Node α}
    {extra : List (Edge α)} (valid : g.ensureValid = .ok found) (valid' : h.ensureValid = .ok found')
    (more : g.Decorates c extra h) (retries : Value α) (parameters : Bindings α)
    (stream : String → σ) (host : Host) :
    ∃ p q, Plan.ofValid g retries = .ok p ∧ Plan.ofValid h retries = .ok q ∧
      ∀ b, execute (⟨q, parameters, stream, host⟩ : Input σ α) = .ok b →
        ∃ a own, execute (⟨p, parameters, stream, host⟩ : Input σ α) = .ok a ∧
          RunReport.DecoratedBy own a b ∧
          (∀ n ∈ g.nodes, b.states.find? n.id = a.states.find? n.id) ∧
          (b.states.find? c.id = some .done ∧ c.Contributes (CountRange.Draws σ) own ∨
            b.states.find? c.id = some .pruned ∧ own = {}) := by
  have sound := Graph.sound_of_ensureValid valid
  have sound' := Graph.sound_of_ensureValid valid'
  have plans := more.plans_agree sound sound' retries
  have inputs : Input.AgreeApart c.id (⟨⟨g, retries⟩, parameters, stream, host⟩ : Input σ α)
      ⟨⟨h, retries⟩, parameters, stream, host⟩ := ⟨plans, rfl, rfl, rfl⟩
  have here : c ∈ h.nodes := more.mem_nodes.2 (.inl rfl)
  refine ⟨_, _, Graph.Sound.plan_of_ensureValid retries valid,
    Graph.Sound.plan_of_ensureValid retries valid', fun b ran => ?_⟩
  obtain ⟨past', s, reached', rest, rfl⟩ := reaches_of_execute (sound'.closed retries) ran
  obtain ⟨past, r, parts, reached, both⟩ := reached'.decorated inputs (sound.closed retries)
    (sound'.closed retries) more.content (sound'.node?_iff.2 ⟨here, rfl⟩)
  obtain ⟨log, books⟩ := reached.ledger (sound.closed retries)
  obtain ⟨log', books'⟩ := reached'.ledger (sound'.closed retries)
  have ended := both.agree.next?_none (sound.closed retries) plans books rest
  obtain ⟨own, decorated, which⟩ := both.reports rfl books' sound' rest here
  refine ⟨r.toReport, own, reached.execute_eq (sound.closed retries) ended, decorated,
    fun n node => ?_, which⟩
  rw [toReport_states, toReport_states]
  refine both.agree.state? fun same => more.new sound' ?_
  exact same ▸ Graph.mem_nodeIds.2 ⟨n, node, rfl⟩

end Run

namespace Vault

open Run

def chests : Node Float := Gate.graph.node "chests" (.prop {}) ["in"] []

/-- The way to the chests. -/
def furnish : Edge Float :=
  { id := "furnish", source := ⟨"hall", "out"⟩, target := ⟨"chests", "in"⟩ }

/-- The hall without its chests. -/
def bare : Graph Float where
  nodes := graph.nodes.eraseIdx 2
  edges := graph.edges.eraseIdx 1

theorem decorates : bare.Decorates chests [furnish] graph where
  content := rfl
  nodes := @List.perm_middle _ chests (graph.nodes.take 2) (graph.nodes.drop 3)
  edges := @List.perm_middle _ furnish (graph.edges.take 1) (graph.edges.drop 2)
  leads := by
    intro e member
    rw [List.mem_singleton.1 member]
    exact ⟨by decide, rfl⟩

end Vault

namespace Run

theorem execute_decorated_vault : ∃ a b own,
    execute { Vault.input with plan := ⟨Vault.bare, .int 10⟩ } = .ok a ∧
    execute Vault.input = .ok b ∧ RunReport.DecoratedBy own a b ∧
    Vault.chests.Contributes (CountRange.Draws Random.Stream) own := by
  obtain ⟨found, valid⟩ : ∃ found, Vault.bare.ensureValid = .ok found := ⟨_, rfl⟩
  obtain ⟨found', valid'⟩ := Vault.valid
  obtain ⟨b, ran, _, done, _⟩ := Vault.returns
  obtain ⟨p, q, made, made', same⟩ := execute_decorated valid valid' Vault.decorates
    Vault.input.plan.retries Vault.input.parameters Vault.input.stream Vault.input.host
  cases made.symm.trans (Graph.Sound.plan_of_ensureValid _ valid)
  cases made'.symm.trans (Graph.Sound.plan_of_ensureValid _ valid')
  obtain ⟨a, own, returned, decorated, _, contributed⟩ := same b ran
  refine ⟨a, b, own, returned, ran, decorated, ?_⟩
  rcases contributed with ⟨_, contributes⟩ | ⟨pruned, _⟩
  · exact contributes
  · cases done.symm.trans pruned

end Run

end Dungeon
