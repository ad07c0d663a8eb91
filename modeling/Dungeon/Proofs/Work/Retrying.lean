import Dungeon.Proofs.Work.Building
import Dungeon.Proofs.Work.Furnishing
import Dungeon.Proofs.Work.Parallel

/-!
# Nodes that retry

Every node draws what a sketch shows before it looks for a place for its first room, the number of
rooms and of entities in particular. Behind that the works go on side by side whatever they draw, with
one exception: a chain that branches draws which rooms it connects.
-/

namespace Dungeon

variable {σ α : Type} [Scalar α]

/-- What leaves the ports, without the places from which the next rooms grow. -/
def Outcome.unplaced (out : Outcome α) : Outcome α := out.map (Option.map Fragment.unplaced)

/-- The same fragments leave the same ports, up to places. -/
def Outcome.Agrees (out out' : Outcome α) : Prop := out.unplaced = out'.unplaced

namespace Contribution

variable {ways : Bool}

theorem sketch_ofEntities (roomId : String) (es : List (Entity α)) :
    (ofEntities roomId es).sketch ways = .ofEntities roomId (es.map Entity.sketch) := by
  simp [sketch, ofEntities]

theorem sketch_spawnPoints (roomId : String) (es : List (Entity α)) :
    ({ spawnPoints := es.map (Entity.spawnPoint roomId) } : Contribution α).sketch ways =
      { spawnPoints := (es.map Entity.sketch).map (Entity.spawnPoint roomId) } := by
  simp [sketch, Function.comp_def, Entity.spawnPoint, SpawnPoint.sketch, Entity.sketch]

end Contribution

/-- Entities of one type and with the same data are drawn by their ids alone. -/
theorem Entity.map_sketch {es : List (Entity α)} {type : Value α} {metadata : Metadata α}
    (alike : ∀ e ∈ es, e.type = type ∧ e.metadata = metadata) :
    es.map Entity.sketch =
      (es.map Entity.id).map fun id => { id, type, position := .origin, metadata } := by
  rw [List.map_map]
  refine List.map_congr_left fun e member => ?_
  obtain ⟨rfl, rfl⟩ := alike e member
  rfl

omit [Scalar α] in
/-- The node is no chain of rooms that branches. -/
def Node.Linear (n : Node α) : Prop :=
  ∀ data, n.data = .roomChain data → data.style.getD .linear ≠ .branching

namespace Job

open Work

variable {ways : Bool} {R : σ → σ → Prop} (j : Job α)

theorem agrees_everywhere {f g : Fragment α} (same : f.unplaced = g.unplaced) :
    Outcome.Agrees (j.everywhere f) (j.everywhere g) := by
  have unplaced (f : Fragment α) : (j.everywhere f).unplaced = j.everywhere f.unplaced := by
    simp [Outcome.unplaced, everywhere, Table.map_ofList, Function.comp_def]
  rw [Outcome.Agrees, unplaced, same, unplaced]

theorem agrees_only (chosen : String) {f g : Fragment α} (same : f.unplaced = g.unplaced) :
    Outcome.Agrees (j.only f chosen) (j.only g chosen) := by
  have unplaced (f : Fragment α) : (j.only f chosen).unplaced = j.only f.unplaced chosen := by
    simp [Outcome.unplaced, only, Table.map_ofList, Function.comp_def,
      apply_ite (Option.map Fragment.unplaced)]
  rw [Outcome.Agrees, unplaced, same, unplaced]

theorem unplaced_paths (f : Fragment α) (weights : List α) :
    (Table.ofList (j.paths f weights)).map Fragment.unplaced =
      Table.ofList (j.paths f.unplaced weights) := by
  rw [Table.map_ofList, paths, List.map_map]
  rfl

theorem agrees_all {t t' : Table String (Fragment α)}
    (same : t.map Fragment.unplaced = t'.map Fragment.unplaced) :
    Outcome.Agrees (t.map some) (t'.map some) := by
  have unplaced (t : Table String (Fragment α)) :
      Outcome.unplaced (t.map some) = (t.map Fragment.unplaced).map some := by
    simp [Outcome.unplaced, Table.map, Function.comp_def]
  rw [Outcome.Agrees, unplaced, same, unplaced]

theorem agrees_chosen {t t' : Table String (Fragment α)}
    (same : t.map Fragment.unplaced = t'.map Fragment.unplaced) (chosen : String) :
    Outcome.Agrees ⟨t.entries.map fun x => (x.1, if x.1 = chosen then some x.2 else none)⟩
      ⟨t'.entries.map fun x => (x.1, if x.1 = chosen then some x.2 else none)⟩ := by
  have unplaced (t : Table String (Fragment α)) :
      Outcome.unplaced ⟨t.entries.map fun x => (x.1, if x.1 = chosen then some x.2 else none)⟩ =
        ⟨(t.map Fragment.unplaced).entries.map fun x =>
          (x.1, if x.1 = chosen then some x.2 else none)⟩ := by
    simp [Outcome.unplaced, Table.map, Function.comp_def, apply_ite (Option.map Fragment.unplaced)]
  rw [Outcome.Agrees, unplaced, same, unplaced]

variable [Source σ α]

/-- Two tries at a room place the same room in different places. -/
theorem parallel_buildRoom (retries : Value α) (roomId : String) (p : CheckedPlan α)
    {f f' : Fragment α} {a a' : Attachment α} (root : a.anchor.isNone = a'.anchor.isNone) :
    Parallel ways R Astray (j.buildRoom roomId p f a : Work σ α Unit)
      ((j.trying retries).buildRoom roomId p f' a') Eq := by
  refine .of_adds (fun d => j.adds_buildRoom roomId p f a)
    (fun d => (j.trying retries).adds_buildRoom roomId p f' a') ?_
  rintro d d' _ _ _ _ same ⟨_, _, _, _, tags, _, _, _, _, parts, _, rfl⟩
    ⟨_, _, _, _, tags', _, _, _, _, parts', _, rfl⟩
  obtain rfl := Except.ok.inj (parts.symm.trans parts')
  refine ⟨rfl, ?_⟩
  simp [Contribution.sketch, builtRoom, Room.sketch, root, trying]

theorem parallel_connectRooms (roomId : String) {anchors anchors' : List String}
    (same_ways : ways = true → anchors = anchors') :
    Parallel ways R Astray (connectRooms anchors roomId : Work σ α Unit)
      (connectRooms anchors' roomId) Eq := by
  refine .of_adds (fun d => adds_connectRooms anchors roomId)
    (fun d => adds_connectRooms anchors' roomId) ?_
  rintro d d' _ _ _ _ same ⟨cs, rfl, between⟩ ⟨cs', rfl, between'⟩
  refine ⟨rfl, ?_⟩
  cases ways with
  | false => rfl
  | true =>
    have ends : cs.map Connection.way = cs'.map Connection.way := by
      rw [between, between', same_ways rfl, parents, parents, Draft.startRoom_of_sketch same]
    have drawn (cs : List (Connection α)) :
        cs.map Connection.sketch = (cs.map Connection.way).map .ofWay := by
      rw [List.map_map]
      rfl
    simp [Contribution.sketch, drawn, ends]

omit [Source σ α] in
theorem parallel_continueFrom (f : Fragment α) (cursor : Cursor α) (roomId : String) :
    Parallel ways R Astray (continueFrom f roomId : Work σ α (Fragment α))
      (continueFrom { f with cursor } roomId) fun g g' => g.unplaced = g'.unplaced := by
  refine .of_adds (fun d => asks_continueFrom f roomId)
    (fun d => asks_continueFrom { f with cursor } roomId) ?_
  rintro d d' _ _ _ _ same ⟨rfl, _, rfl⟩ ⟨rfl, _, rfl⟩
  exact ⟨rfl, rfl⟩

/-- Where the next room of a chain is attached differs when the chain branches. -/
theorem parallel_nextAttachment {style : ConnectionStyle}
    (linear : ways = true → style ≠ .branching) (forward : Direction) {placed : List String}
    {last : String} (latest : last ∈ placed) :
    Parallel ways R Astray
      (nextAttachment style forward placed last : Work σ α (String × Attachment α))
      (nextAttachment style forward placed last)
      fun x x' => x.2.anchor.isNone = x'.2.anchor.isNone ∧ (ways = true → [x.1] = [x'.1]) := by
  cases style with
  | linear => exact (Parallel.pure ⟨rfl, fun _ => rfl⟩).astray
  | branching =>
    refine .of_adds (fun d => asks_nextAttachment _ forward latest)
      (fun d => asks_nextAttachment _ forward latest) ?_
    rintro d d' x x' _ _ same ⟨rfl, _, attached⟩ ⟨rfl, _, attached'⟩
    refine ⟨⟨by rw [attached, attached']; rfl, fun drawn => ?_⟩, rfl⟩
    exact absurd rfl (linear drawn)

theorem parallel_laterRooms (retries : Value α) {data : RoomChainData α}
    (linear : ways = true → data.style.getD .linear ≠ .branching) (p : CheckedPlan α)
    (f : Fragment α) (cursor : Cursor α) (ids : List String) {placed : List String} {last : String}
    (latest : last ∈ placed) :
    Parallel ways Astray Astray (j.laterRooms data p f placed last ids : Work σ α String)
      ((j.trying retries).laterRooms data p { f with cursor } placed last ids) Eq := by
  induction ids generalizing placed last with
  | nil => exact .pure rfl
  | cons id rest ih =>
    refine .bind (parallel_nextAttachment linear f.direction latest) ?_
    rintro ⟨anchor, a⟩ ⟨anchor', a'⟩ ⟨root, same_ways⟩
    refine .step (j.parallel_buildRoom retries id p root) fun _ => ?_
    exact .step (parallel_connectRooms id same_ways) fun _ => ih (by simp)

theorem parallel_place (retries : Value α) (roomId : String) (type : Value α)
    (metadata : Metadata α) (radius : Option α) (n : Nat) :
    Parallel ways R Astray (j.place roomId type metadata radius n : Work σ α (List (Entity α)))
      ((j.trying retries).place roomId type metadata radius n)
      fun es es' => es.map Entity.sketch = es'.map Entity.sketch := by
  refine .of_adds (fun d => j.adds_place roomId type metadata radius n)
    (fun d => (j.trying retries).adds_place roomId type metadata radius n) ?_
  rintro d d' es es' _ _ same ⟨rfl, ids, alike⟩ ⟨rfl, ids', alike'⟩
  have drawn : es.map Entity.sketch = es'.map Entity.sketch := by
    rw [Entity.map_sketch alike, Entity.map_sketch alike', ids, ids', node_trying]
  rw [Contribution.sketch_ofEntities, Contribution.sketch_ofEntities, drawn]
  exact ⟨rfl, rfl⟩

omit [Source σ α] in
theorem parallel_spawnPoints (roomId : String) {es es' : List (Entity α)}
    (alike : es.map Entity.sketch = es'.map Entity.sketch) :
    Parallel ways R Astray (forIn es PUnit.unit fun e _ => do
        Work.write fun draft => draft.addSpawnPoint ⟨e.id, e.type, e.position, roomId⟩
        pure (ForInStep.yield PUnit.unit) : Work σ α PUnit)
      (forIn es' PUnit.unit fun e _ => do
        Work.write fun draft => draft.addSpawnPoint ⟨e.id, e.type, e.position, roomId⟩
        pure (ForInStep.yield PUnit.unit)) Eq := by
  refine .of_adds (fun d => adds_spawnPoints roomId es) (fun d => adds_spawnPoints roomId es') ?_
  rintro d d' _ _ _ _ same rfl rfl
  rw [Contribution.sketch_spawnPoints, Contribution.sketch_spawnPoints, alike]
  exact ⟨rfl, rfl⟩

theorem parallel_start (data : StartData α) :
    Parallel ways R Astray (j.start data : Work σ α (Outcome α)) (j.start data)
      Outcome.Agrees := by
  refine .of_adds (fun d => j.adds_start data) (fun d => j.adds_start data) ?_
  rintro d d' _ _ _ _ same ⟨⟨_, _, rfl⟩, rfl⟩ ⟨⟨_, _, rfl⟩, rfl⟩
  exact ⟨rfl, rfl⟩

section
variable {incoming incoming' : List (Fragment α)}
  (same : incoming.map Fragment.unplaced = incoming'.map Fragment.unplaced)
include same

theorem parallel_room (retries : Value α) (data : RoomData α) :
    Parallel ways Eq Astray (j.room data incoming : Work σ α (Outcome α))
      ((j.trying retries).room data incoming') Outcome.Agrees := by
  refine .step (j.parallel_checkedPlan data.plan) fun p => ?_
  refine j.parallel_merged same fun f cursor => ?_
  refine .step (j.parallel_buildRoom retries _ p rfl) fun _ => ?_
  refine .step (parallel_connectRooms _ fun _ => rfl) fun _ => ?_
  refine .bind (parallel_continueFrom f cursor j.node.id) fun g g' alike => .pure ?_
  exact j.agrees_everywhere alike

theorem parallel_roomChain (retries : Value α) {data : RoomChainData α}
    (linear : ways = true → data.style.getD .linear ≠ .branching) :
    Parallel ways Eq Astray (j.roomChain data incoming : Work σ α (Outcome α))
      ((j.trying retries).roomChain data incoming') Outcome.Agrees := by
  refine .step (j.parallel_checkedPlan data.plan) fun p => ?_
  refine j.parallel_merged same fun f cursor => ?_
  refine .step (j.parallel_count data.count "countRange") fun n => ?_
  simp only [node_trying]
  cases Placement.roomIds j.node.id n with
  | nil => exact .astray (.pure (j.agrees_everywhere rfl))
  | cons first rest =>
    refine .step (j.parallel_buildRoom retries first p rfl) fun _ => ?_
    refine .step (parallel_connectRooms first fun _ => rfl) fun _ => ?_
    refine .step (j.parallel_laterRooms retries linear p f cursor rest (by simp)) fun last => ?_
    refine .bind (parallel_continueFrom f cursor last) fun g g' alike => .pure ?_
    exact j.agrees_everywhere alike

omit [Source σ α] in
theorem parallel_output (data : OutputData α) :
    Parallel ways Eq Astray (j.output data incoming : Work σ α (Outcome α))
      (j.output data incoming') Outcome.Agrees := by
  refine j.parallel_merged same fun f cursor => ?_
  refine .step (j.parallel_anchor f) fun roomId => ?_
  have adds (d : Draft α) : Adds d (do
      let bounds ← Work.boundsOf roomId
      Work.write fun draft => draft.addExit {
        position := bounds.center, roomId, type := data.exitType, requiresKey := data.requiresKey
        nodeId := some j.node.id }
      return Table.empty : Work σ α (Outcome α)) fun out k => out = Table.empty ∧
        ∃ position, k = { exits := [{
          position, roomId, type := data.exitType, requiresKey := data.requiresKey
          nodeId := some j.node.id }] } := by
    refine .ask (.boundsOf roomId) fun bounds _ => .bind (.addExit _) ?_
    rintro _ _ rfl
    exact .pure ⟨rfl, bounds.center, by simp⟩
  refine .of_adds adds adds ?_
  rintro d d' _ _ _ _ same ⟨rfl, _, rfl⟩ ⟨rfl, _, rfl⟩
  exact ⟨rfl, rfl⟩

theorem parallel_spawnPoint (retries : Value α) (data : SpawnPointData α) :
    Parallel ways Eq Astray (j.spawnPoint data incoming : Work σ α (Outcome α))
      ((j.trying retries).spawnPoint data incoming') Outcome.Agrees := by
  refine j.parallel_merged same fun f cursor => ?_
  refine .step (j.parallel_anchor f) fun roomId => .step (.lift _) fun negative => ?_
  refine .ite (fun _ => .fail_bind j _ _) fun _ => ?_
  refine .step (j.parallel_count data.count "countRange") fun n => ?_
  refine .ite (fun _ => .step (.pure rfl) fun radius => ?_)
    fun _ => .step (.step (.lift _) fun _ => .pure rfl) fun radius => ?_
  all_goals
    refine .bind (j.parallel_place retries roomId _ _ radius n) fun es es' alike => ?_
    exact .bind (parallel_spawnPoints roomId alike) fun _ _ _ => .pure rfl

theorem parallel_lootDrop (retries : Value α) (data : LootDropData α) :
    Parallel ways Eq Astray (j.lootDrop data incoming : Work σ α (Outcome α))
      ((j.trying retries).lootDrop data incoming') Outcome.Agrees := by
  refine j.parallel_merged same fun f cursor => ?_
  refine .step (j.parallel_anchor f) fun roomId => .step (.lift _) fun least => ?_
  refine .ite (fun _ => .step (.lift _) fun fits => ?_) fun _ => .step (.pure rfl) fun fits => ?_
  all_goals
    refine .ite (fun _ => .failOver_bind j _ _ _) fun _ => .step (.draw _) fun drops => ?_
    refine .ite (fun _ => ?_) fun _ => .astray (.pure rfl)
    refine .step (j.parallel_count data.count "itemCount") fun n => ?_
    exact .bind (j.parallel_place retries roomId _ _ none n) fun _ _ _ => .pure rfl

theorem parallel_encounter (retries : Value α) (data : EncounterData α) :
    Parallel ways Eq Astray (j.encounter data incoming : Work σ α (Outcome α))
      ((j.trying retries).encounter data incoming') Outcome.Agrees := by
  refine j.parallel_merged same fun f cursor => ?_
  refine .step (j.parallel_anchor f) fun roomId => .step (.lift _) fun difficulty => ?_
  cases level? difficulty with
  | none => exact .failOver j _ _ _
  | some level =>
    refine .step (j.parallel_count data.count "enemyCount") fun n => ?_
    exact .bind (j.parallel_place retries roomId _ _ none n) fun _ _ _ => .pure rfl

theorem parallel_prop (retries : Value α) (data : PropData α) :
    Parallel ways Eq Astray (j.prop data incoming : Work σ α (Outcome α))
      ((j.trying retries).prop data incoming') Outcome.Agrees := by
  refine j.parallel_merged same fun f cursor => ?_
  refine .step (j.parallel_anchor f) fun roomId => ?_
  refine .step (j.parallel_count data.count "countRange") fun n => ?_
  exact .bind (j.parallel_place retries roomId _ _ none n) fun _ _ _ => .pure rfl

theorem parallel_branch (data : BranchData α) :
    Parallel ways Eq Eq (j.branch data incoming : Work σ α (Outcome α))
      (j.branch data incoming') Outcome.Agrees := by
  refine j.parallel_merged same fun f cursor => ?_
  refine .step (j.parallel_pathWeights data.weights) fun weights => ?_
  have paths : (Table.ofList (j.paths f weights)).map Fragment.unplaced =
      (Table.ofList (j.paths { f with cursor } weights)).map Fragment.unplaced := by
    rw [unplaced_paths, unplaced_paths]
    rfl
  refine .ite (fun _ => .step (.draw _) fun i => .pure ?_) fun _ => .pure ?_
  · exact agrees_chosen paths (j.portId i)
  · exact agrees_all paths

theorem parallel_randomSelect (data : RandomSelectData α) :
    Parallel ways Eq Eq (j.randomSelect data incoming : Work σ α (Outcome α))
      (j.randomSelect data incoming') Outcome.Agrees := by
  refine j.parallel_merged same fun f cursor => ?_
  refine .step (j.parallel_pathWeights _) fun weights => .step (.draw _) fun i => .pure ?_
  exact j.agrees_only _ rfl

omit [Source σ α] in
theorem parallel_merge :
    Parallel ways R R (j.merge incoming : Work σ α (Outcome α))
      (j.merge incoming') Outcome.Agrees := by
  refine j.parallel_merged same fun f cursor => .pure ?_
  exact j.agrees_everywhere rfl

omit [Source σ α] in
theorem parallel_condition (data : ConditionData α) :
    Parallel ways R R (j.condition data incoming : Work σ α (Outcome α))
      (j.condition data incoming') Outcome.Agrees := by
  refine j.parallel_merged same fun f cursor => ?_
  refine .step (.lift _) fun name => ?_
  cases j.parameters.find? name with
  | none => exact .failOver j _ _ _
  | some actual =>
    dsimp only
    cases holds data.operator actual data.value with
    | ok b => exact .pure (j.agrees_only _ rfl)
    | error e => exact .ite (fun _ => .failOver j _ _ _) fun _ => .throw e _

theorem parallel_distribution (data : DistributionData α) :
    Parallel ways Eq Eq (j.distribution data incoming : Work σ α (Outcome α))
      (j.distribution data incoming') Outcome.Agrees := by
  refine j.parallel_merged same fun f cursor => ?_
  refine .step (.lift _) fun reversed => .ite (fun _ => .failOver_bind j _ _ _) fun _ => ?_
  refine .step (.blame j (.draw _)) fun unit => .step (.lift _) fun x => ?_
  exact .step (.lift _) fun name => .pure (j.agrees_everywhere rfl)

/-- The work of a node with one number of retries and with another. -/
theorem parallel_perform (retries : Value α) (linear : ways = true → j.node.Linear) :
    Parallel ways Eq Astray (j.perform incoming : Work σ α (Outcome α))
      ((j.trying retries).perform incoming') Outcome.Agrees := by
  unfold perform
  rw [node_trying]
  cases kind : j.node.data with
  | start data => exact j.parallel_start data
  | output data => exact j.parallel_output same data
  | room data => exact j.parallel_room same retries data
  | roomChain data => exact j.parallel_roomChain same retries fun drawn => linear drawn data kind
  | spawnPoint data => exact j.parallel_spawnPoint same retries data
  | lootDrop data => exact j.parallel_lootDrop same retries data
  | encounter data => exact j.parallel_encounter same retries data
  | prop data => exact j.parallel_prop same retries data
  | branch data => exact (j.parallel_branch same data).astray
  | merge data => exact (j.parallel_merge same).astray
  | sequence data => exact (j.parallel_merge same).astray
  | randomSelect data => exact (j.parallel_randomSelect same data).astray
  | condition data => exact (j.parallel_condition same data).astray
  | distribution data => exact (j.parallel_distribution same data).astray

end

end Job

end Dungeon
