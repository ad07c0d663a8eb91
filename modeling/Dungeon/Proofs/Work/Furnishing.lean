import Dungeon.Proofs.Work.Adds

/-!
# What start, exits and content add

The start only says where the player starts, an output adds one exit, and a content node puts
numbered entities into one room. The room of an exit or of entities is there already.
-/

namespace Dungeon

variable {σ α : Type}

/-- The entities of a content node: numbered from 0, as many as the node may draw, all of one type
and with the same data. -/
structure Puts [Scalar α] (counts : CountRange → Int → Prop) (n : Node α) (count : Setting CountRange α)
    (type : Value α) (metadata : Metadata α) (es : List (Entity α)) : Prop where
  counted : ∃ range m, count = .proper range ∧ counts range (m : Nat) ∧
    es.map Entity.id = (List.range m).map (Job.entityId n.id type)
  alike : ∀ e ∈ es, e.type = type ∧ e.metadata = metadata

/-- Entities for one room. -/
def Contribution.ofEntities (roomId : String) (es : List (Entity α)) : Contribution α :=
  { content := es.map fun e => (roomId, e) }

/-- The spawn point of an entity. -/
def Entity.spawnPoint (roomId : String) (e : Entity α) : SpawnPoint α :=
  ⟨e.id, e.type, e.position, roomId⟩

/-- Entities for one room, each with a spawn point. -/
def Contribution.ofSpawned (roomId : String) (es : List (Entity α)) : Contribution α :=
  { content := es.map fun e => (roomId, e), spawnPoints := es.map (Entity.spawnPoint roomId) }

namespace Job

open Work

variable {d : Draft α}

theorem adds_addEntity (roomId : String) (e : Entity α) :
    Adds d (tryWrite fun d => d.addEntity roomId e : Work σ α Unit) fun _ k =>
      k = .ofEntities roomId [e] := by
  refine .tryWrite fun d' added => ?_
  by_cases there : roomId ∈ d.ids
  · rw [d.addEntity_eq e there] at added
    cases added
    exact ⟨_, rfl, rfl, fun e' alike => e'.addEntity_eq e (alike.ids ▸ there)⟩
  · rw [Draft.addEntity, if_neg (mt Draft.hasRoom_iff.1 there)] at added
    cases added

theorem adds_spawnPoints (roomId : String) (es : List (Entity α)) :
    Adds d (forIn es PUnit.unit fun e _ => do
      Work.write fun draft => draft.addSpawnPoint ⟨e.id, e.type, e.position, roomId⟩
      pure (ForInStep.yield PUnit.unit) : Work σ α PUnit)
      fun _ k => k = { spawnPoints := es.map (Entity.spawnPoint roomId) } := by
  induction es generalizing d with
  | nil => exact .pure rfl
  | cons e rest ih =>
    have first : Adds d (do
        Work.write fun draft => draft.addSpawnPoint ⟨e.id, e.type, e.position, roomId⟩
        pure (ForInStep.yield PUnit.unit) : Work σ α (ForInStep PUnit)) fun step k =>
          step = ForInStep.yield PUnit.unit ∧ k = { spawnPoints := [e.spawnPoint roomId] } := by
      refine .bind (.addSpawnPoint _) ?_
      rintro _ _ rfl
      exact .pure ⟨rfl, by simp [Entity.spawnPoint]⟩
    rw [List.forIn_cons]
    refine .bind first ?_
    rintro _ _ ⟨rfl, rfl⟩
    refine ih.mono fun _ k more => ?_
    simp [more, Contribution.append_def]

variable [Scalar α] [Source σ α] (j : Job α)

theorem adds_placeFrom (roomId : String) (type : Value α) (metadata : Metadata α)
    (radius : Option α) (bounds : Rect α) (i n : Nat) :
    Adds d (j.placeFrom roomId type metadata radius bounds i n : Work σ α (List (Entity α)))
      fun es k => k = .ofEntities roomId es ∧
        es.map Entity.id = (List.range' i n).map (entityId j.node.id type) ∧
        ∀ e ∈ es, e.type = type ∧ e.metadata = metadata := by
  induction n generalizing d i with
  | zero => exact .pure ⟨rfl, rfl, by simp⟩
  | succ n ih =>
    refine .ask (.draw _) fun position _ => .ask (.lift _) fun id told => ?_
    obtain ⟨_, rfl⟩ := writing_eq_ok.1 told
    refine .bind (adds_addEntity roomId _) ?_
    rintro _ _ rfl
    refine .bind (ih (i + 1)) fun es k ⟨same, ids, alike⟩ => .pure ⟨?_, ?_, ?_⟩
    · simp [same, Contribution.append_def, Contribution.ofEntities]
    · simp [List.range'_succ, ids]
    · simpa using alike

theorem adds_place (roomId : String) (type : Value α) (metadata : Metadata α) (radius : Option α)
    (n : Nat) :
    Adds d (j.place roomId type metadata radius n : Work σ α (List (Entity α))) fun es k =>
      k = .ofEntities roomId es ∧ es.map Entity.id = (List.range n).map (entityId j.node.id type) ∧
        ∀ e ∈ es, e.type = type ∧ e.metadata = metadata := by
  refine .ask (.boundsOf roomId) fun bounds _ => ?_
  rw [List.range_eq_range']
  exact j.adds_placeFrom roomId type metadata radius bounds 0 n

/-- As many entities as were drawn are those of a content node. -/
theorem puts_place {n : Nat} {range : CountRange} {count : Setting CountRange α}
    (proper : count = .proper range) (drawn : range.Draws σ (n : Int)) (roomId : String)
    (type : Value α) (metadata : Metadata α) (radius : Option α) :
    Adds d (j.place roomId type metadata radius n : Work σ α (List (Entity α))) fun es k =>
      k = .ofEntities roomId es ∧
        Puts (CountRange.Draws σ) j.node count type metadata es := by
  refine (j.adds_place roomId type metadata radius n).mono ?_
  intro es k ⟨same, ids, alike⟩
  exact ⟨same, ⟨range, n, proper, drawn, ids⟩, alike⟩

/-- The node says where the player starts, and adds nothing else. -/
theorem adds_start (data : StartData α) :
    Adds d (j.start data : Work σ α (Outcome α)) fun out k =>
      (∃ area offset, k = { start := some (area, offset) }) ∧ out = j.everywhere .empty := by
  have set (area : SpawnArea) (offset : Point α) : Adds d (do
      Work.write fun draft => draft.setPlayerStart area offset
      pure (j.everywhere Fragment.empty) : Work σ α (Outcome α)) fun out k =>
        (∃ area offset, k = { start := some (area, offset) }) ∧ out = j.everywhere .empty := by
    refine .bind (.setPlayerStart area offset) ?_
    rintro _ _ rfl
    exact .pure ⟨⟨area, offset, by simp⟩, rfl⟩
  unfold start
  dsimp only
  split
  · exact .ask (.draw _) fun _ _ => .ask (.draw _) fun _ _ =>
      .ask (.known _) fun _ _ => set _ _
  · exact .ask (.known _) fun _ _ => set _ _

omit [Source σ α] in
/-- The node adds an exit of its own to a room that is there. -/
theorem adds_output (data : OutputData α) (incoming : List (Fragment α)) :
    Adds d (j.output data incoming : Work σ α (Outcome α)) fun out k => out = Table.empty ∧
      ∃ position, ∃ roomId ∈ d.ids, k = { exits := [{
        position, roomId, type := data.exitType, requiresKey := data.requiresKey
        nodeId := some j.node.id }] } := by
  refine .ask (j.asks_single incoming) fun f _ => .ask (j.asks_anchor f) fun roomId there => ?_
  refine .ask (.boundsOf roomId) fun bounds _ => .bind (.addExit _) ?_
  rintro _ _ rfl
  exact .pure ⟨rfl, bounds.center, roomId, there, by simp⟩

theorem adds_spawnPoint (data : SpawnPointData α) (incoming : List (Fragment α)) :
    Adds d (j.spawnPoint data incoming : Work σ α (Outcome α)) fun out k => out = Table.empty ∧
      ∃ roomId ∈ d.ids, ∃ es,
        Puts (CountRange.Draws σ) j.node data.count data.entityType [] es ∧
          k = .ofSpawned roomId es := by
  refine .ask (j.asks_single incoming) fun f _ => .ask (j.asks_anchor f) fun roomId there => ?_
  refine .ask (.lift _) fun negative _ => .ite (fun _ => .fail_bind j _) fun _ => ?_
  refine .ask (j.asks_count _ _) fun n ⟨range, proper, drawn⟩ => ?_
  refine .ite (fun _ => .ask (.known _) fun radius _ => ?_)
    fun _ => .ask (.map some (.lift _)) fun radius _ => ?_
  all_goals
    refine .bind (j.puts_place proper drawn roomId _ _ _) fun es k ⟨same, puts⟩ => ?_
    refine .bind (adds_spawnPoints roomId es) fun _ l more => .pure ?_
    refine ⟨rfl, roomId, there, es, puts, ?_⟩
    simp [same, more, Contribution.ofEntities, Contribution.ofSpawned, Contribution.append_def]

theorem adds_lootDrop (data : LootDropData α) (incoming : List (Fragment α)) :
    Adds d (j.lootDrop data incoming : Work σ α (Outcome α)) fun out k => out = Table.empty ∧
      (k = {} ∨ ∃ roomId ∈ d.ids, ∃ es,
        Puts (CountRange.Draws σ) j.node data.count (.text "loot")
          (.ofTexts [("lootTable", data.lootTable)]) es ∧ k = .ofEntities roomId es) := by
  refine .ask (j.asks_single incoming) fun f _ => .ask (j.asks_anchor f) fun roomId there => ?_
  refine .ask (.lift _) fun least _ => .ite (fun _ => .ask (.lift _) fun fits _ => ?_)
    fun _ => .ask (.known _) fun fits _ => ?_
  all_goals
    refine .ite (fun _ => .failOver_bind j _ _) fun _ => .ask (.draw _) fun drops _ => ?_
    refine .ite (fun _ => ?_) fun _ => .pure ⟨rfl, .inl rfl⟩
    refine .ask (j.asks_count _ _) fun n ⟨range, proper, drawn⟩ => ?_
    refine .bind (j.puts_place proper drawn roomId _ _ _) fun es k ⟨same, puts⟩ => .pure ?_
    exact ⟨rfl, .inr ⟨roomId, there, es, puts, by simpa using same⟩⟩

theorem adds_encounter (data : EncounterData α) (incoming : List (Fragment α)) :
    Adds d (j.encounter data incoming : Work σ α (Outcome α)) fun out k => out = Table.empty ∧
      ∃ level, level? data.difficulty = some level ∧ ∃ roomId ∈ d.ids, ∃ es,
        Puts (CountRange.Draws σ) j.node data.count (.text "enemy")
          (encounterMetadata data level) es ∧ k = .ofEntities roomId es := by
  refine .ask (j.asks_single incoming) fun f _ => .ask (j.asks_anchor f) fun roomId there => ?_
  refine .ask (.lift _) fun difficulty keyed => ?_
  have same : difficulty = data.difficulty := by
    rw [Value.key] at keyed
    split at keyed
    · cases keyed
    · exact (Except.ok.inj keyed).symm
  subst same
  split
  · exact .failOver j _ _
  next level named =>
    refine .ask (j.asks_count _ _) fun n ⟨range, proper, drawn⟩ => ?_
    refine .bind (j.puts_place proper drawn roomId _ _ _) fun es k ⟨same, puts⟩ => .pure ?_
    exact ⟨rfl, level, named, roomId, there, es, puts, by simpa using same⟩

theorem adds_prop (data : PropData α) (incoming : List (Fragment α)) :
    Adds d (j.prop data incoming : Work σ α (Outcome α)) fun out k => out = Table.empty ∧
      ∃ roomId ∈ d.ids, ∃ es,
        Puts (CountRange.Draws σ) j.node data.count (.text "prop")
          (.ofTexts [("propType", data.propType)]) es ∧ k = .ofEntities roomId es := by
  refine .ask (j.asks_single incoming) fun f _ => .ask (j.asks_anchor f) fun roomId there => ?_
  refine .ask (j.asks_count _ _) fun n ⟨range, proper, drawn⟩ => ?_
  refine .bind (j.puts_place proper drawn roomId _ _ _) fun es k ⟨same, puts⟩ => .pure ?_
  exact ⟨rfl, roomId, there, es, puts, by simpa using same⟩

end Job

end Dungeon
