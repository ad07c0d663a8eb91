import Dungeon.Proofs.Run.Alike
import Dungeon.Proofs.Run.Escaping

/-!
# The order of declarations does not matter

Graphs that declare the same nodes and edges in another order, and that may differ in positions,
labels, port types and groups, have plans that are alike. So their runs end in the same way.
-/

namespace Dungeon

variable {σ α β γ : Type}

/-- Where only one element gives something, it is found in any order. -/
theorem findSome?_perm {xs ys : List β} {f : β → Option γ} (perm : xs.Perm ys)
    (unique : ∀ x ∈ xs, ∀ y ∈ xs, (f x).isSome → (f y).isSome → x = y) :
    xs.findSome? f = ys.findSome? f := by
  cases found : xs.findSome? f with
  | none =>
    refine (List.findSome?_eq_none_iff.2 fun y hy => ?_).symm
    exact List.findSome?_eq_none_iff.1 found y (perm.mem_iff.2 hy)
  | some v =>
    obtain ⟨x, hx, given⟩ := List.exists_of_findSome?_eq_some found
    rw [findSome?_of_unique (perm.mem_iff.1 hx), given]
    intro y hy other
    by_contra some_given
    have here : (f x).isSome := by rw [given]; rfl
    exact other (unique y (perm.mem_iff.2 hy) x hx (Option.ne_none_iff_isSome.1 some_given) here)

/-- The same nodes and edges, up to their order and to what belongs to the editor. -/
structure Graph.Reordered (g h : Graph α) : Prop where
  nodes : (g.nodes.map Node.bare).Perm (h.nodes.map Node.bare)
  edges : (g.edges.map Edge.bare).Perm (h.edges.map Edge.bare)

theorem Plan.lastIndex?_bare (ports : List (Port α)) (id : String) :
    lastIndex? (ports.map Port.bare) id = lastIndex? ports id := by
  unfold lastIndex?
  rw [List.zipIdx_map, ← List.map_reverse, List.find?_map, Option.map_map]
  rfl

namespace Plan

/-- What the edges that leave a node are sorted by. -/
def leaveRank (p : Plan α) (e : Edge α) : Nat × String :=
  ((p.indexOf? Node.outputs e.source).getD 0, e.id)

theorem leavesBefore_eq (p : Plan α) (e f : Edge α) :
    p.leavesBefore e f = numberThenText (p.leaveRank e) (p.leaveRank f) := rfl

theorem leavesBefore_total (p : Plan α) (e f : Edge α) :
    p.leavesBefore e f = true ∨ p.leavesBefore f e = true :=
  numberThenText_total (p.leaveRank e) (p.leaveRank f)

theorem leavesBefore_trans (p : Plan α) (d e f : Edge α) (hde : p.leavesBefore d e = true)
    (hef : p.leavesBefore e f = true) : p.leavesBefore d f = true := by
  rw [leavesBefore_eq] at *
  exact numberThenText_trans hde hef

/-- Edges that leave neither before the other have the same id. -/
theorem id_eq_of_leavesBefore {p : Plan α} {e f : Edge α} (hef : p.leavesBefore e f = true)
    (hfe : p.leavesBefore f e = true) : e.id = f.id :=
  congrArg Prod.snd (numberThenText_antisymm hef hfe : p.leaveRank e = p.leaveRank f)

end Plan

namespace Graph.Reordered

variable {g h : Graph α} (same : g.Reordered h) (sound : g.Sound)
include same sound

/-- What only one id decides, and not the editor's data, is found alike in both graphs. -/
theorem findSome?_eq {f : Node α → Option β} (id : String) (bare : ∀ n : Node α, f n.bare = f n)
    (other : ∀ n : Node α, n.id ≠ id → f n = none) :
    g.nodes.reverse.findSome? f = h.nodes.reverse.findSome? f := by
  have strip (ns : List (Node α)) :
      ns.reverse.findSome? f = (ns.map Node.bare).reverse.findSome? f := by
    rw [← List.map_reverse, List.findSome?_map]
    simp only [Function.comp_def, bare]
  rw [strip g.nodes, strip h.nodes]
  refine findSome?_perm (((List.reverse_perm _).trans same.nodes).trans (List.reverse_perm _).symm) ?_
  have owner {x : Node α} (given : (f x).isSome) : x.id = id := by
    by_contra different
    rw [other x different] at given
    cases given
  intro x hx y hy fx fy
  obtain ⟨n, hn, rfl⟩ := List.mem_map.1 (List.mem_reverse.1 hx)
  obtain ⟨m, hm, rfl⟩ := List.mem_map.1 (List.mem_reverse.1 hy)
  rw [sound.node_inj hn hm ((owner fx).trans (owner fy).symm)]

theorem node?_eq (id : String) : (g.node? id).map Node.bare = (h.node? id).map Node.bare := by
  have strip (ns : List (Node α)) : (ns.find? (·.id == id)).map Node.bare =
      (ns.map Node.bare).findSome? (Option.guard (·.id == id)) := by
    rw [List.findSome?_guard, List.find?_map]
    rfl
  unfold node?
  rw [strip, strip]
  refine findSome?_perm same.nodes ?_
  intro x hx y hy fx fy
  obtain ⟨n, hn, rfl⟩ := List.mem_map.1 hx
  obtain ⟨m, hm, rfl⟩ := List.mem_map.1 hy
  have named : n.id = id := by simpa [Option.guard, Node.bare] using fx
  have called : m.id = id := by simpa [Option.guard, Node.bare] using fy
  rw [sound.node_inj hn hm (named.trans called.symm)]

variable (retries : Value α)

theorem indexOf?_eq (ports : Node α → List (Port α))
    (bare : ∀ n : Node α, ports n.bare = (ports n).map Port.bare) (ref : PortRef) :
    Plan.indexOf? ⟨g, retries⟩ ports ref = Plan.indexOf? ⟨h, retries⟩ ports ref := by
  refine same.findSome?_eq sound ref.node (fun n => ?_) fun n other => if_neg other
  show (if n.id = ref.node then Plan.lastIndex? (ports n.bare) ref.port else none) = _
  rw [bare, Plan.lastIndex?_bare]

theorem strategy?_eq (id : String) :
    Plan.strategy? ⟨g, retries⟩ id = Plan.strategy? ⟨h, retries⟩ id := by
  refine same.findSome?_eq sound id (fun n => ?_) fun n other => ?_
  · unfold Node.bare
    dsimp only
    cases n.data <;> rfl
  · cases n.data <;> simp [other]

theorem outgoing_eq (id : String) : (Plan.outgoing ⟨g, retries⟩ id).map Edge.bare =
    (Plan.outgoing ⟨h, retries⟩ id).map Edge.bare := by
  have leaves (e f : Edge α) : Plan.leavesBefore ⟨g, retries⟩ e f =
      Plan.leavesBefore ⟨h, retries⟩ e.bare f.bare := by
    simp only [Plan.leavesBefore_eq, Plan.leaveRank,
      same.indexOf?_eq sound retries Node.outputs fun _ => rfl]
    rfl
  have strip (es : List (Edge α)) : (es.filter fun e => e.source.node == id).map Edge.bare =
      (es.map Edge.bare).filter fun e => e.source.node == id := by
    rw [List.filter_map]
    rfl
  have kept (e f : Edge α) : Plan.leavesBefore ⟨h, retries⟩ e f =
      Plan.leavesBefore ⟨h, retries⟩ e.bare f.bare := rfl
  unfold Plan.outgoing
  rw [map_sortBy leaves, map_sortBy kept, strip, strip]
  -- Edges that are in no strict order share an id, and so are the same edge.
  refine sortBy_eq_of_perm (Plan.leavesBefore_total _) (Plan.leavesBefore_trans _)
    (same.edges.filter _) ?_
  intro x hx y hy hxy hyx
  obtain ⟨e, he, rfl⟩ := List.mem_map.1 (List.mem_filter.1 hx).1
  obtain ⟨f, hf, rfl⟩ := List.mem_map.1 (List.mem_filter.1 hy).1
  have ids : e.id = f.id := (Plan.id_eq_of_leavesBefore hxy hyx : e.bare.id = f.bare.id)
  rw [List.inj_on_of_nodup_map sound.edges he hf ids]

theorem plan_alike (sound' : h.Sound) : Plan.Alike ⟨g, retries⟩ ⟨h, retries⟩ where
  retries := rfl
  distinct := sound.nodup_nodeIds
  nodeIds := by
    have ids (ns : List (Node α)) : ns.map Node.id = (ns.map Node.bare).map Node.id := by
      rw [List.map_map]
      rfl
    show g.nodeIds.Perm h.nodeIds
    rw [sound.nodeIds_eq, sound'.nodeIds_eq, ids g.nodes, ids h.nodes]
    exact same.nodes.map Node.id
  nodes := same.node?_eq sound
  outgoing := same.outgoing_eq sound retries
  inDegree id := by
    have counted := same.edges.countP_eq fun e => e.target.node == id
    rwa [List.countP_map, List.countP_map] at counted
  ports := same.indexOf?_eq sound retries Node.inputs fun _ => rfl
  strategies := same.strategy?_eq sound retries

end Graph.Reordered

namespace Run

/-- Two accepted graphs that declare the same nodes and edges, in any order and with any positions,
labels and groups, give the same report or fail with the same fault: at the same node for the same
reason, or with a fault that escapes, which happens only where the host does not bear the graph. -/
theorem execute_reordered [Scalar α] [Source σ α] {g h : Graph α} {found found' : Graph.Report}
    (valid : g.ensureValid = .ok found) (valid' : h.ensureValid = .ok found')
    (same : g.Reordered h) (retries : Value α) (parameters : Bindings α) (stream : String → σ)
    (host : Host) :
    ∃ p q, Plan.ofValid g retries = .ok p ∧ Plan.ofValid h retries = .ok q ∧
      ((∃ f, execute (⟨p, parameters, stream, host⟩ : Input σ α) = .error f ∧
          execute (⟨q, parameters, stream, host⟩ : Input σ α) = .error f ∧
          (f.kind = .node ∨ Escapes g host f ∧ ¬ host.Bears g)) ∨
        ∃ a b, execute (⟨p, parameters, stream, host⟩ : Input σ α) = .ok a ∧
          execute (⟨q, parameters, stream, host⟩ : Input σ α) = .ok b ∧ a.Same b) := by
  have sound := Graph.sound_of_ensureValid valid
  have plans := same.plan_alike sound retries (Graph.sound_of_ensureValid valid')
  have closed : (⟨⟨g, retries⟩, parameters, stream, host⟩ : Input σ α).plan.Closed :=
    sound.closed retries
  refine ⟨_, _, Graph.Sound.plan_of_ensureValid retries valid,
    Graph.Sound.plan_of_ensureValid retries valid', ?_⟩
  have agree : Agree RunReport.Same (execute (⟨⟨g, retries⟩, parameters, stream, host⟩ : Input σ α))
      (execute (⟨⟨h, retries⟩, parameters, stream, host⟩ : Input σ α)) := execute_alike plans
  rcases agree.cases with ⟨f, failed, failed'⟩ | ⟨a, b, ran, ran', reports⟩
  · refine .inl ⟨f, failed, failed', (escapes_of_execute closed failed).imp_right fun escaped => ?_⟩
    exact ⟨escaped, fun bears => bears.not_escapes sound f escaped⟩
  · exact .inr ⟨a, b, ran, ran', reports⟩

/-- A graph with everything declared the other way round and moved elsewhere in the editor. -/
def Gate.mirror (g : Graph Float) : Graph Float where
  nodes := g.nodes.reverse.map fun n => { n with position := ⟨.whole 3, .whole 4⟩ }
  edges := g.edges.reverse.map fun e => { e with label := .text e.id }
  groups := [⟨"all", "All", [.text "gate"], .null⟩]

theorem Gate.reordered_mirror (g : Graph Float) : g.Reordered (mirror g) where
  nodes := by
    have bare : (mirror g).nodes.map Node.bare = (g.nodes.map Node.bare).reverse := by
      simp only [mirror, List.map_reverse, List.map_map]
      rfl
    rw [bare]
    exact (List.reverse_perm _).symm
  edges := by
    have bare : (mirror g).edges.map Edge.bare = (g.edges.map Edge.bare).reverse := by
      simp only [mirror, List.map_reverse, List.map_map]
      rfl
    rw [bare]
    exact (List.reverse_perm _).symm

/-- Where the host does not bear the row behind the gate, or refuses the id of the gate, neither run
fails at a node. -/
theorem execute_sinks_mirrored : (∃ found, (Gate.mirror Gate.row).ensureValid = .ok found) ∧
    Gate.row.Reordered (Gate.mirror Gate.row) ∧ execute (Gate.closed 2) = .error .tooDeep ∧
    execute { Gate.closed 2 with plan := ⟨Gate.mirror Gate.row, .int 10⟩ } = .error .tooDeep ∧
    execute { Gate.closed 3 with host := Gate.refusing "gate" } =
      .error (.unencodable "surrogates not allowed") ∧
    execute { Gate.closed 3 with plan := ⟨Gate.mirror Gate.row, .int 10⟩,
                                 host := Gate.refusing "gate" } =
      .error (.unencodable "surrogates not allowed") :=
  ⟨⟨_, rfl⟩, Gate.reordered_mirror _, rfl, rfl, rfl, rfl⟩

theorem execute_reordered_gate : ∃ a b, execute Gate.input = .ok a ∧
    execute { Gate.input with plan := ⟨Gate.mirror Gate.graph, .int 10⟩ } = .ok b ∧ a.Same b := by
  obtain ⟨found, valid⟩ : ∃ found, Gate.graph.ensureValid = .ok found := ⟨_, rfl⟩
  obtain ⟨found', valid'⟩ : ∃ found, (Gate.mirror Gate.graph).ensureValid = .ok found := ⟨_, rfl⟩
  obtain ⟨a, ran⟩ : ∃ report, execute Gate.input = .ok report := ⟨_, rfl⟩
  obtain ⟨p, q, made, made', ⟨f, failed, _⟩ | ⟨a', b, ran', mirrored, reports⟩⟩ :=
    execute_reordered valid valid' (Gate.reordered_mirror _) Gate.input.plan.retries
      Gate.input.parameters Gate.input.stream Gate.input.host
  · cases made.symm.trans (Graph.Sound.plan_of_ensureValid _ valid)
    cases ran.symm.trans failed
  · cases made.symm.trans (Graph.Sound.plan_of_ensureValid _ valid)
    cases made'.symm.trans (Graph.Sound.plan_of_ensureValid _ valid')
    exact ⟨a', b, ran', mirrored, reports⟩

end Run

end Dungeon
