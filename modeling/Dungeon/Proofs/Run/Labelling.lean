import Dungeon.Proofs.Numbered
import Dungeon.Proofs.Run.Growth
import Mathlib.Data.List.Pairwise

/-!
# Which entities share an id

The id of an entity is made of the id of its node, its type and its number. One node never gives an
id twice. Two nodes give the same one only if the id of one goes on from the id of the other behind
the mark that parts ids from types, so that what one counts to the id is part of the type for the
other. The same holds of spawn points, which have the ids of their entities.
-/

namespace Dungeon

variable {σ α : Type}

namespace Node

/-- The type of the entities that a node places. -/
def entityType? (n : Node α) : Option (Value α) :=
  match n.data with
  | .spawnPoint d => some d.entityType
  | .lootDrop _ => some (.text "loot")
  | .encounter _ => some (.text "enemy")
  | .prop _ => some (.text "prop")
  | _ => none

variable [Scalar α]

/-- The node may give this id to an entity. -/
def Labels (n : Node α) (x : String) : Prop :=
  ∃ type i, n.entityType? = some type ∧ x = Job.entityId n.id type i

/-- Both nodes may give the id, and the id of the second goes on from that of the first. -/
structure Overlaps (m n : Node α) (x : String) : Prop where
  first : m.Labels x
  second : n.Labels x
  longer : ∃ rest, n.id = m.id ++ ":" ++ rest

theorem overlaps_of_labels {m n : Node α} {x : String} (hm : m.Labels x) (hn : n.Labels x) :
    m.id = n.id ∨ m.Overlaps n x ∨ n.Overlaps m x := by
  have ⟨type, i, _, same⟩ := hm
  have ⟨type', k, _, same'⟩ := hn
  have stems := ((Text.numbered_inj rfl rfl).1 (same.symm.trans same')).1
  rcases Text.marked_cases rfl stems with one | ⟨rest, longer⟩ | ⟨rest, longer⟩
  · exact .inl one
  · exact .inr (.inl ⟨hm, hn, rest, longer⟩)
  · exact .inr (.inr ⟨hn, hm, rest, longer⟩)

end Node

/-- The ids that the contribution gives to entities and to spawn points are ids of the node's, each
of them given once. -/
structure Contribution.Labelled [Scalar α] (n : Node α) (k : Contribution α) : Prop where
  entities : (k.content.map fun x => x.2.id).Nodup
  spawnPoints : (k.spawnPoints.map SpawnPoint.id).Nodup
  labels : ∀ x ∈ k.content, n.Labels x.2.id
  spawned : ∀ s ∈ k.spawnPoints, n.Labels s.id

section
variable [Scalar α] {counts : CountRange → Int → Prop} {n : Node α} {k : Contribution α}

theorem Contribution.labelled_of_bare (content : k.content = []) (spawnPoints : k.spawnPoints = []) :
    k.Labelled n := by
  constructor <;> simp [content, spawnPoints]

theorem Puts.labelled {count : Setting CountRange α} {type : Value α} {metadata : Metadata α}
    {es : List (Entity α)} (puts : Puts counts n count type metadata es)
    (typed : n.entityType? = some type) (roomId : String) :
    (Contribution.ofSpawned roomId es).Labelled n ∧ (Contribution.ofEntities roomId es).Labelled n := by
  obtain ⟨_, m, _, _, ids⟩ := puts.counted
  have distinct : (es.map Entity.id).Nodup := by
    rw [ids]
    exact List.Nodup.map (fun _ _ same => ((Text.numbered_inj rfl rfl).1 same).2) List.nodup_range
  have labels : ∀ e ∈ es, n.Labels e.id := by
    intro e member
    have listed : e.id ∈ es.map Entity.id := List.mem_map_of_mem member
    rw [ids] at listed
    obtain ⟨i, _, same⟩ := List.mem_map.1 listed
    exact ⟨type, i, typed, same.symm⟩
  constructor
  all_goals
    constructor <;>
      simp_all [Contribution.ofSpawned, Contribution.ofEntities, Entity.spawnPoint, Function.comp_def]

theorem Node.Contributes.labelled (h : n.Contributes counts k) : k.Labelled n := by
  unfold Node.Contributes at h
  cases data : n.data with
  | start | output =>
    rw [data] at h
    obtain ⟨_, _, rfl⟩ := h
    exact Contribution.labelled_of_bare rfl rfl
  | room =>
    rw [data] at h
    exact Contribution.labelled_of_bare h.content h.spawnPoints
  | roomChain =>
    rw [data] at h
    obtain ⟨_, _, _, _, builds⟩ := h
    exact Contribution.labelled_of_bare builds.content builds.spawnPoints
  | branch | merge | randomSelect | sequence | condition | distribution =>
    rw [data] at h
    subst h
    exact Contribution.labelled_of_bare rfl rfl
  | spawnPoint =>
    rw [data] at h
    obtain ⟨roomId, es, puts, rfl⟩ := h
    exact (puts.labelled (by rw [Node.entityType?, data]) roomId).1
  | lootDrop =>
    rw [data] at h
    obtain rfl | ⟨roomId, es, puts, rfl⟩ := h
    · exact Contribution.labelled_of_bare rfl rfl
    · exact (puts.labelled (by rw [Node.entityType?, data]) roomId).2
  | encounter =>
    rw [data] at h
    obtain ⟨_, _, roomId, es, puts, rfl⟩ := h
    exact (puts.labelled (by rw [Node.entityType?, data]) roomId).2
  | prop =>
    rw [data] at h
    obtain ⟨roomId, es, puts, rfl⟩ := h
    exact (puts.labelled (by rw [Node.entityType?, data]) roomId).2

end

theorem Contribution.mem_into {k : Contribution α} {id : String} {e : Entity α} :
    e ∈ k.into id ↔ (id, e) ∈ k.content := by
  simp [Contribution.into]

/-- What holds of any two entities of one contribution and of any two of different ones holds of any
two entities in the layout. -/
theorem Layout.Sums.pairwise_entities {l : Layout α} {ks : List (Contribution α)} (sums : l.Sums ks)
    {R : Entity α → Entity α → Prop} [symm : Std.Symm R]
    (within : ∀ k ∈ ks, k.content.Pairwise fun x y => R x.2 y.2)
    (across : ks.Pairwise fun k k' => ∀ x ∈ k.content, ∀ y ∈ k'.content, R x.2 y.2) :
    l.entities.Pairwise R := by
  refine List.pairwise_flatMap.2 ⟨fun r member => ?_, ?_⟩
  · rw [sums.entities r member]
    refine List.pairwise_flatMap.2 ⟨fun k part => ?_, ?_⟩
    · have kept := (within k part).filter (fun x => x.1 == r.id)
      exact List.pairwise_map.2 kept
    · refine across.imp fun apart e there e' there' => ?_
      exact apart _ (Contribution.mem_into.1 there) _ (Contribution.mem_into.1 there')
  · -- Entities in different rooms come from different contributions or differ within one.
    have apart : ∀ k ∈ ks, ∀ k' ∈ ks, ∀ x ∈ k.content, ∀ y ∈ k'.content, x ≠ y → R x.2 y.2 := by
      intro k part k' part' x there y there' other
      by_cases same : k = k'
      · subst same
        have : Std.Symm fun x y : String × Entity α => R x.2 y.2 := ⟨fun _ _ h => symm.symm _ _ h⟩
        exact (within k part).forall there there' other
      · have : Std.Symm fun k k' : Contribution α =>
            ∀ x ∈ k.content, ∀ y ∈ k'.content, R x.2 y.2 :=
          ⟨fun _ _ h x there y there' => symm.symm _ _ (h y there' x there)⟩
        exact across.forall part part' same x there y there'
    refine (List.pairwise_map.1 sums.distinct).imp_of_mem fun {r r'} member member' other => ?_
    rw [sums.entities r member, sums.entities r' member']
    intro e there e' there'
    obtain ⟨k, part, into⟩ := List.mem_flatMap.1 there
    obtain ⟨k', part', into'⟩ := List.mem_flatMap.1 there'
    exact apart k part k' part' _ (Contribution.mem_into.1 into) _ (Contribution.mem_into.1 into')
      fun same => other (congrArg Prod.fst same)

theorem Layout.Sums.pairwise_spawnPoints {l : Layout α} {ks : List (Contribution α)}
    (sums : l.Sums ks) {R : SpawnPoint α → SpawnPoint α → Prop}
    (within : ∀ k ∈ ks, k.spawnPoints.Pairwise R)
    (across : ks.Pairwise fun k k' => ∀ s ∈ k.spawnPoints, ∀ t ∈ k'.spawnPoints, R s t) :
    l.spawnPoints.Pairwise R := by
  rw [sums.spawnPoints]
  exact List.pairwise_flatMap.2 ⟨within, across⟩

/-- If the ids are the same, two done nodes of the graph may both give it. -/
def RunReport.Apart [Scalar α] (g : Graph α) (report : RunReport α) (x y : String) : Prop :=
  x = y → ∃ m ∈ g.nodes, ∃ n ∈ g.nodes, report.states.find? m.id = some .done ∧
    report.states.find? n.id = some .done ∧ m.Overlaps n x

theorem RunReport.symm_apart [Scalar α] (g : Graph α) (report : RunReport α) :
    Std.Symm (report.Apart g) := by
  refine ⟨fun x y apart => ?_⟩
  rintro rfl
  exact apart rfl

namespace Run

variable [Scalar α] [Source σ α]

/-- Ids of different nodes that have worked are apart. -/
theorem Grown.apart {input : Input σ α} {past : List (Execution α)} {log : List (Delivery α)}
    {r : Run α} {parts : List (Node α × Contribution α)} (grown : Grown input past r parts)
    (books : Ledger input.plan past log [] r) {x y : Node α × Contribution α} (hx : x ∈ parts)
    (hy : y ∈ parts) (other : x.1.id ≠ y.1.id) {a b : String} (first : x.1.Labels a)
    (second : y.1.Labels b) : r.toReport.Apart input.plan.graph a b := by
  rintro rfl
  have worked {x : Node α × Contribution α} (part : x ∈ parts) : x.1 ∈ input.plan.graph.nodes ∧
      r.toReport.states.find? x.1.id = some .done := by
    refine ⟨(Graph.mem_of_node? (grown.nodes x part)).1, ?_⟩
    rw [toReport_states, books.done, ← grown.ran]
    exact List.mem_map_of_mem part
  obtain ⟨inside, done⟩ := worked hx
  obtain ⟨inside', done'⟩ := worked hy
  rcases Node.overlaps_of_labels first second with same | overlaps | overlaps
  · exact absurd same other
  · exact ⟨x.1, inside, y.1, inside', done, done', overlaps⟩
  · exact ⟨y.1, inside', x.1, inside, done', done, overlaps⟩

/-- When the run of an accepted graph returns, entities have different ids, and so have spawn points,
except where two of its nodes may give the same id because the id of one goes on from the other's. -/
theorem execute_labels {g : Graph α} {found : Graph.Report} (valid : g.ensureValid = .ok found)
    (retries : Value α) (parameters : Bindings α) (stream : String → σ) (host : Host) :
    ∃ plan, Plan.ofValid g retries = .ok plan ∧
      ∀ report, execute (⟨plan, parameters, stream, host⟩ : Input σ α) = .ok report →
        (report.layout.entities.map Entity.id).Pairwise (report.Apart g) ∧
        (report.layout.spawnPoints.map SpawnPoint.id).Pairwise (report.Apart g) := by
  have sound := Graph.sound_of_ensureValid valid
  refine ⟨_, Graph.Sound.plan_of_ensureValid retries valid, fun report ran => ?_⟩
  obtain ⟨past, r, reached, rest, rfl⟩ := reaches_of_execute (sound.closed retries) ran
  obtain ⟨log, books⟩ := reached.ledger (sound.closed retries)
  obtain ⟨parts, grown⟩ := reached.grown (sound.closed retries)
  have labelled (x : Node α × Contribution α) (hx : x ∈ parts) := (grown.contributes x hx).labelled
  have once : parts.Pairwise fun x y => x.1.id ≠ y.1.id :=
    List.pairwise_map.1 (grown.ran ▸ books.once)
  have symm := r.toReport.symm_apart g
  rw [List.pairwise_map, List.pairwise_map]
  constructor
  · have : Std.Symm fun e e' : Entity α => r.toReport.Apart g e.id e'.id :=
      ⟨fun _ _ h => symm.symm _ _ h⟩
    refine grown.sums.pairwise_entities (List.forall_mem_map.2 fun x hx => ?_)
      (List.pairwise_map.2 (once.imp_of_mem fun hx hy other e he e' he' => ?_))
    · exact (List.pairwise_map.1 (labelled x hx).entities).imp fun other same => absurd same other
    · exact grown.apart books hx hy other ((labelled _ hx).labels e he) ((labelled _ hy).labels e' he')
  · refine grown.sums.pairwise_spawnPoints (List.forall_mem_map.2 fun x hx => ?_)
      (List.pairwise_map.2 (once.imp_of_mem fun hx hy other s hs t ht => ?_))
    · exact (List.pairwise_map.1 (labelled x hx).spawnPoints).imp fun other same => absurd same other
    · exact grown.apart books hx hy other ((labelled _ hx).spawned s hs) ((labelled _ hy).spawned t ht)

end Run

namespace Den

open Run.Gate.graph (node)

/-- Two dens in a cave. What one of them counts to its id is part of the type for the other. -/
def graph : Graph Float where
  nodes := [
    node "start" (.start {}) [] ["out"],
    node "cave" (.room { plan := Vault.graph.plan }) ["in"] ["out"],
    node "den" (.spawnPoint { entityType := .text "rat:king", count, radius := .int 1 }) ["in"] [],
    node "den:rat" (.spawnPoint { entityType := .text "king", count, radius := .int 1 }) ["in"] [],
    node "exit" (.output {}) ["in"] []]
  edges := [
    { id := "enter", source := ⟨"start", "out"⟩, target := ⟨"cave", "in"⟩ },
    { id := "leave", source := ⟨"cave", "out"⟩, target := ⟨"exit", "in"⟩ },
    { id := "first", source := ⟨"cave", "out"⟩, target := ⟨"den", "in"⟩ },
    { id := "second", source := ⟨"cave", "out"⟩, target := ⟨"den:rat", "in"⟩ }]
where
  count : Setting CountRange Float := .proper ⟨1, 1⟩

def input : Run.Input Random.Stream Float where
  plan := ⟨graph, .int 10⟩
  parameters := []
  stream := nodeStream 7

theorem valid : ∃ found, graph.ensureValid = .ok found := ⟨_, rfl⟩

theorem returns : ∃ report, Run.execute input = .ok report ∧
    report.layout.entities.map Entity.id = ["den:rat:king:0", "den:rat:king:0"] ∧
    report.layout.spawnPoints.map SpawnPoint.id = ["den:rat:king:0", "den:rat:king:0"] := by
  have facts : (Run.execute input).toOption.map (fun report =>
      (report.layout.entities.map Entity.id, report.layout.spawnPoints.map SpawnPoint.id)) =
      some (["den:rat:king:0", "den:rat:king:0"], ["den:rat:king:0", "den:rat:king:0"]) := by
    decide +kernel
  obtain ⟨report, ran, read⟩ := except_toOption_map_eq_some.1 facts
  obtain ⟨entities, spawnPoints⟩ := Prod.mk.inj read
  exact ⟨report, ran, entities, spawnPoints⟩

end Den

namespace Run

/-- The graph is accepted, its run returns, and what the two dens place has one id. -/
theorem execute_den : ∃ found report, Den.graph.ensureValid = .ok found ∧
    execute Den.input = .ok report ∧ ¬ (report.layout.entities.map Entity.id).Nodup ∧
    ¬ (report.layout.spawnPoints.map SpawnPoint.id).Nodup := by
  obtain ⟨found, valid⟩ := Den.valid
  obtain ⟨report, ran, entities, spawnPoints⟩ := Den.returns
  refine ⟨found, report, valid, ran, ?_, ?_⟩
  · rw [entities]
    decide
  · rw [spawnPoints]
    decide

theorem execute_labels_den : ∃ report, execute Den.input = .ok report ∧
    (report.layout.entities.map Entity.id).Pairwise (report.Apart Den.graph) ∧
    (report.layout.spawnPoints.map SpawnPoint.id).Pairwise (report.Apart Den.graph) ∧
    ∃ m ∈ Den.graph.nodes, ∃ n ∈ Den.graph.nodes, m.Overlaps n "den:rat:king:0" := by
  obtain ⟨_, valid⟩ := Den.valid
  obtain ⟨report, ran, ids, _⟩ := Den.returns
  obtain ⟨plan, made, apart⟩ :=
    execute_labels valid (.int 10) Den.input.parameters Den.input.stream Den.input.host
  cases made.symm.trans (Graph.Sound.plan_of_ensureValid _ valid)
  obtain ⟨entities, spawnPoints⟩ := apart report ran
  have pair := entities
  rw [ids] at pair
  obtain ⟨m, inside, n, inside', _, _, overlaps⟩ := List.pairwise_pair.1 pair rfl
  exact ⟨report, ran, entities, spawnPoints, m, inside, n, inside', overlaps⟩

end Run

end Dungeon
