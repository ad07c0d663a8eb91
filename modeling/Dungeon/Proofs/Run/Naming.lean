import Dungeon.Proofs.Run.Growth
import Dungeon.Proofs.Work.Taken

/-!
# Which room ids clash

Rooms are named after the nodes that place them, the rooms of a chain with a number. Nodes of an
accepted graph have different ids, and still a room node can be named like a room of a chain. Whatever
else makes a run fail, a room id is taken only where two nodes clash in this way.
-/

namespace Dungeon

variable {σ α : Type}

/-- The id of a room node is also the id of a room of a chain. -/
structure Node.Clash (m n : Node α) (x : String) : Prop where
  room : m.kind = .room
  chain : n.kind = .roomChain
  own : x = m.id
  numbered : ∃ i : Nat, x = n.id ++ "_" ++ toString i

/-- Nodes that name the same room have one id, or they clash. -/
theorem Node.clash_of_names {m n : Node α} {x : String} (hm : m.Names x) (hn : n.Names x) :
    m.id = n.id ∨ m.Clash n x ∨ n.Clash m x := by
  rcases hm with ⟨room, own⟩ | ⟨chain, i, numbered⟩
  · rcases hn with ⟨_, own'⟩ | ⟨chain, numbered⟩
    · exact .inl (own.symm.trans own')
    · exact .inr (.inl ⟨room, chain, own, numbered⟩)
  · rcases hn with ⟨room, own⟩ | ⟨_, k, numbered'⟩
    · exact .inr (.inr ⟨room, chain, own, i, numbered⟩)
    · exact .inl ((Text.numbered_inj rfl rfl).1 (numbered.symm.trans numbered')).1

/-- The rooms that a node contributes have ids that it names. -/
theorem Node.Contributes.names [Scalar α] {counts : CountRange → Int → Prop} {n : Node α}
    {k : Contribution α} (h : n.Contributes counts k) : ∀ r ∈ k.rooms, n.Names r.id := by
  intro r member
  have listed : r.id ∈ k.rooms.map Room.id := List.mem_map_of_mem member
  rcases h.rooms_cases with none_added | ⟨room, plan, builds⟩ | ⟨chain, plan, m, builds⟩
  · rw [none_added] at member
    cases member
  · rw [builds.rooms, List.mem_singleton] at listed
    exact .inl ⟨room, listed⟩
  · rw [builds.rooms, Placement.mem_roomIds] at listed
    obtain ⟨i, _, numbered⟩ := listed
    exact .inr ⟨chain, i, numbered⟩

namespace Run

variable [Scalar α] [Source σ α] {input : Input σ α} {past : List (Execution α)} {r : Run α}

/-- Each room of the draft is named by a node that has worked. -/
theorem Grown.named {parts : List (Node α × Contribution α)} (grown : Grown input past r parts)
    {x : String} (there : x ∈ r.draft.ids) : ∃ m, input.plan.graph.node? m.id = some m ∧
      m.id ∈ past.map Execution.id ∧ m.Names x := by
  obtain ⟨room, member, rfl⟩ := List.mem_map.1 there
  have bare : room.bare ∈ r.draft.toLayout.rooms.map Room.bare := List.mem_map_of_mem member
  rw [grown.sums.rooms, List.mem_flatMap] at bare
  obtain ⟨_, listed, added⟩ := bare
  obtain ⟨⟨m, k⟩, part, rfl⟩ := List.mem_map.1 listed
  have named : m.Names room.bare.id := (grown.contributes _ part).names _ added
  refine ⟨m, grown.nodes _ part, ?_, named⟩
  rw [← grown.ran]
  exact List.mem_map_of_mem part

/-- If a room id is taken where a node works next, this node clashes with one that has worked. -/
theorem Reaches.clash (closed : input.plan.Closed) (reached : Reaches input past r) {id : String}
    (next : r.next? = some id) {n : Node α} (node : input.plan.graph.node? id = some n) {x : String}
    {site : Site σ α} (worked : input.work r n = .error (.roomTaken x) site) :
    ∃ m ∈ input.plan.graph.nodes, m.id ∈ past.map Execution.id ∧ (m.Clash n x ∨ n.Clash m x) := by
  obtain ⟨_, rfl⟩ := Graph.mem_of_node? node
  obtain ⟨log, books⟩ := reached.ledger closed
  obtain ⟨state, entry, ready, _⟩ := books.of_next? closed next
  obtain ⟨parts, grown⟩ := reached.grown closed
  obtain ⟨asked, there⟩ := Job.takes_perform _ _ worked rfl
  obtain ⟨m, node', ran, named⟩ := grown.named there
  refine ⟨m, (Graph.mem_of_node? node').1, ran, ?_⟩
  -- With the same id the node would be done and ready at once.
  refine (Node.clash_of_names named asked).resolve_left fun same => ?_
  have done := (books.done n.id).2 (same ▸ ran)
  rw [state?_eq entry, ready] at done
  cases done

/-- A run of an accepted graph that the host does not refuse fails at a node. If it fails because a
room id is taken, then this node and one that has worked before clash: one is a room node and the other
one a chain node, and the id of the room node is that of the chain node with a number. No other nodes
name the same room. -/
theorem execute_taken {g : Graph α} {found : Graph.Report} (valid : g.ensureValid = .ok found)
    (retries : Value α) (parameters : Bindings α) (stream : String → σ) (host : Host) :
    ∃ plan, Plan.ofValid g retries = .ok plan ∧
      (∀ fault, execute (⟨plan, parameters, stream, host⟩ : Input σ α) = .error fault →
        host.Refuses g fault ∨ ∃ past r n f site,
          Reaches (⟨plan, parameters, stream, host⟩ : Input σ α) past r ∧ n ∈ g.nodes ∧
          (⟨plan, parameters, stream, host⟩ : Input σ α).work r n = .error f site ∧
          fault = failure n.id f ∧
          ∀ x, f = .roomTaken x → ∃ m ∈ g.nodes, m.id ∈ past.map Execution.id ∧
            (m.Clash n x ∨ n.Clash m x)) ∧
      ∀ m ∈ g.nodes, ∀ n ∈ g.nodes, m ≠ n → ∀ x, m.Names x → n.Names x →
        m.Clash n x ∨ n.Clash m x := by
  have sound := Graph.sound_of_ensureValid valid
  have closed : (⟨⟨g, retries⟩, parameters, stream, host⟩ : Input σ α).plan.Closed := sound.closed retries
  refine ⟨_, Graph.Sound.plan_of_ensureValid retries valid, fun fault failed => ?_, ?_⟩
  · rcases execute_cases closed with
      ⟨_, _, ran, _⟩ | ⟨past, r, id, n, f, site, ran, reached, next, node, worked⟩ | ⟨f, ran, refused⟩
    · rw [ran] at failed
      cases failed
    · rw [ran] at failed
      obtain ⟨member, rfl⟩ := Graph.mem_of_node? node
      refine .inr ⟨past, r, n, f, site, reached, member, worked, (Except.error.inj failed).symm, ?_⟩
      rintro x rfl
      exact reached.clash closed next node worked
    · cases ran.symm.trans failed
      exact .inl refused
  · intro m hm n hn other x named named'
    exact (Node.clash_of_names named named').resolve_left fun same =>
      other (sound.node_inj hm hn same)

end Run

namespace Clash

open Run.Gate.graph (node)

/-- Behind a hall of one room lies a room that is named like it. -/
def graph : Graph Float where
  nodes := [
    node "start" (.start {}) [] ["out"],
    node "hall" (.roomChain { count := .proper ⟨1, 1⟩, plan := Vault.graph.plan }) ["in"] ["out"],
    node "hall_0" (.room { plan := Vault.graph.plan }) ["in"] ["out"],
    node "exit" (.output {}) ["in"] []]
  edges := [
    { id := "enter", source := ⟨"start", "out"⟩, target := ⟨"hall", "in"⟩ },
    { id := "pass", source := ⟨"hall", "out"⟩, target := ⟨"hall_0", "in"⟩ },
    { id := "leave", source := ⟨"hall_0", "out"⟩, target := ⟨"exit", "in"⟩ }]

def input : Run.Input Random.Stream Float where
  plan := ⟨graph, .int 10⟩
  parameters := []
  stream := nodeStream 7

theorem valid : ∃ found, graph.ensureValid = .ok found := ⟨_, rfl⟩

theorem fails : Run.execute input =
    .error (.node "hall_0" "ValueError: room id 'hall_0' already placed") := by
  have facts : (match Run.execute input with
      | .error (.node id reason) => some (id, reason)
      | .error _ => none
      | .ok _ => none) = some ("hall_0", "ValueError: room id 'hall_0' already placed") := by
    decide +kernel
  split at facts
  next failed =>
    cases facts
    exact failed
  all_goals cases facts

end Clash

namespace Run

/-- The graph is accepted, and the id of the second room is taken by the room of the hall. -/
theorem execute_hall : ∃ found, Clash.graph.ensureValid = .ok found ∧ execute Clash.input =
    .error (.node "hall_0" "ValueError: room id 'hall_0' already placed") := by
  obtain ⟨found, valid⟩ := Clash.valid
  exact ⟨found, valid, Clash.fails⟩

theorem execute_taken_hall : ∃ m ∈ Clash.graph.nodes, ∃ n ∈ Clash.graph.nodes,
    m.Clash n "hall_0" ∧ ∃ past r k f site, Reaches Clash.input past r ∧ k ∈ Clash.graph.nodes ∧
      Clash.input.work r k = .error f site ∧
      failure k.id f = .node "hall_0" "ValueError: room id 'hall_0' already placed" := by
  obtain ⟨found, valid⟩ := Clash.valid
  obtain ⟨plan, made, failing, clashing⟩ :=
    execute_taken valid (.int 10) Clash.input.parameters Clash.input.stream Clash.input.host
  cases made.symm.trans (Graph.Sound.plan_of_ensureValid _ valid)
  obtain refused | ⟨past, r, k, f, site, reached, member, worked, same, _⟩ := failing _ Clash.fails
  · cases refused
  obtain ⟨hall, hall_in, chain, named⟩ : ∃ n ∈ Clash.graph.nodes, n.id = "hall" ∧
      n.Names "hall_0" := ⟨_, .tail _ (.head _), rfl, .inr ⟨rfl, 0, by decide⟩⟩
  obtain ⟨cell, cell_in, room, named'⟩ : ∃ n ∈ Clash.graph.nodes, n.id = "hall_0" ∧
      n.Names "hall_0" := ⟨_, .tail _ (.tail _ (.head _)), rfl, .inl ⟨rfl, rfl⟩⟩
  have other : cell ≠ hall := by
    rintro rfl
    rw [chain] at room
    exact absurd room (by decide)
  rcases clashing cell cell_in hall hall_in other "hall_0" named' named with clash | clash
  · exact ⟨cell, cell_in, hall, hall_in, clash, past, r, k, f, site, reached, member, worked, same.symm⟩
  · exact ⟨hall, hall_in, cell, cell_in, clash, past, r, k, f, site, reached, member, worked, same.symm⟩

end Run

end Dungeon
