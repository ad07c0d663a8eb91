import Dungeon.Proofs.Work.Performing

/-!
# Piece by piece

A node adds to a draft one piece after another: a room, a connection, an entity, a spawn point, an exit,
or where the player starts. `Job.Piece` says of each where it lies, as it was drawn. What every piece
keeps is kept by whatever a node does.
-/

namespace Dungeon

variable {σ α β γ : Type} [Scalar α] [Source σ α]

namespace Job

/-- A start lies in the middle, or where it was drawn. -/
inductive StartOffset (σ : Type) [Source σ α] : Point α → Prop
  | middle : StartOffset σ ⟨0.5, 0.5⟩
  | drawn {x y : α} {s t s' t' : σ} : Draw.between 0.2 0.8 s = .ok x t →
      Draw.between 0.2 0.8 s' = .ok y t' → StartOffset σ ⟨x, y⟩

/-- One piece of what a node adds to a draft. -/
inductive Piece (σ : Type) [Source σ α] (j : Job α) (d : Draft α) : Contribution α → Prop
  | room {roomId : String} {p : CheckedPlan α} {f : Fragment α} {a : Attachment α}
      {k : Contribution α} : p.size.problems = [] → j.Raises (σ := σ) d roomId p f a k →
      Piece σ j d k
  | connection {fromRoom toRoom : String} {a b : Rect α} {fromDoor toDoor : Point α} {s t : σ} :
      d.boundsOf fromRoom = .ok a → d.boundsOf toRoom = .ok b →
      Placement.facingDoors a b s = .ok (fromDoor, toDoor) t →
      Piece σ j d { connections := [⟨fromRoom, toRoom, fromDoor, toDoor⟩] }
  | entity {roomId : String} {b : Rect α} {radius : Option α} {e : Entity α} {s t : σ} :
      d.boundsOf roomId = .ok b → entityPoint b radius s = .ok e.position t →
      Piece σ j d (.ofEntities roomId [e])
  | spawnPoint {roomId : String} {b : Rect α} {radius : Option α} {e : Entity α} {s t : σ} :
      d.boundsOf roomId = .ok b → entityPoint b radius s = .ok e.position t →
      Piece σ j d { spawnPoints := [e.spawnPoint roomId] }
  | exit {x : Exit α} {b : Rect α} : d.boundsOf x.roomId = .ok b → x.position = b.center →
      Piece σ j d { exits := [x] }
  | start {area : SpawnArea} {offset : Point α} : StartOffset σ offset →
      Piece σ j d { start := some (area, offset) }

/-- Pieces one after another. -/
inductive Pieces (σ : Type) [Source σ α] (j : Job α) : Draft α → Contribution α → Prop
  | none {d : Draft α} : Pieces σ j d {}
  | more {d : Draft α} {k l : Contribution α} : j.Piece σ d k → Pieces σ j (d.gain k) l →
      Pieces σ j d (k ++ l)

namespace Pieces

variable {j : Job α} {d : Draft α} {k l : Contribution α}

theorem one (piece : j.Piece σ d k) : j.Pieces σ d k := by
  have pieces : j.Pieces σ d (k ++ {}) := .more piece .none
  rwa [Contribution.append_empty] at pieces

theorem append (first : j.Pieces σ d k) (second : j.Pieces σ (d.gain k) l) :
    j.Pieces σ d (k ++ l) := by
  induction first with
  | none => simpa using second
  | more piece _ ih =>
    rw [Contribution.append_assoc]
    exact .more piece (ih (by rwa [← Draft.gain_append]))

/-- What every piece keeps is kept by all of them. -/
theorem keep {I : Draft α → Prop} (pieces : j.Pieces σ d k)
    (kept : ∀ d k, j.Piece σ d k → I d → I (d.gain k)) (h : I d) : I (d.gain k) := by
  induction pieces with
  | none => rwa [Draft.gain_empty]
  | more piece _ ih =>
    rw [Draft.gain_append]
    exact ih (kept _ _ piece h)

end Pieces

end Job

namespace Draft

omit [Scalar α] in
theorem boundsOf_eq_ok {d : Draft α} {id : String} {b : Rect α} :
    d.boundsOf id = .ok b ↔ ∃ r, d.room? id = some r ∧ r.bounds = b := by
  unfold boundsOf
  cases d.room? id <;> simp

omit [Scalar α] in
/-- Rooms stay where they are. -/
theorem boundsOf_gain {d : Draft α} {id : String} {b : Rect α} (there : d.boundsOf id = .ok b)
    (k : Contribution α) : (d.gain k).boundsOf id = .ok b := by
  obtain ⟨r, found, rfl⟩ := boundsOf_eq_ok.1 there
  have still : (d.rooms.map (Room.furnish k)).find? (·.id == id) = some (r.furnish k) := by
    rw [List.find?_map]
    exact Option.map_eq_some_iff.2 ⟨r, found, rfl⟩
  refine boundsOf_eq_ok.2 ⟨r.furnish k, ?_, rfl⟩
  rw [room?, gain, List.find?_append, still, Option.some_or]

end Draft

namespace Work

variable {d : Draft α} {j : Job α}

/-- The work gives such a value, and what it adds are pieces. -/
def Lays (j : Job α) (d : Draft α) (w : Work σ α β) (P : β → Prop) : Prop :=
  Adds d w fun v k => P v ∧ j.Pieces σ d k

namespace Lays

variable {w : Work σ α β} {f : β → Work σ α γ} {P : β → Prop} {Q : γ → Prop}

theorem pure {v : β} (h : P v) : Lays j d (pure v : Work σ α β) P := Adds.pure ⟨h, .none⟩

theorem bind (first : Lays j d w P) (second : ∀ v k, P v → Lays j (d.gain k) (f v) Q) :
    Lays j d (w >>= f) Q := by
  refine Adds.bind first fun v k ⟨post, pieces⟩ => (second v k post).mono fun u l ⟨post', more⟩ => ?_
  exact ⟨post', pieces.append more⟩

theorem ask {P : β → Prop} (first : Asks d w P) (second : ∀ v, P v → Lays j d (f v) Q) :
    Lays j d (w >>= f) Q := Adds.ask first second

theorem mono {P' : β → Prop} (h : Lays j d w P) (weaker : ∀ v, P v → P' v) : Lays j d w P' :=
  Adds.mono h fun v _ ⟨post, pieces⟩ => ⟨weaker v post, pieces⟩

end Lays

end Work

namespace Job

open Work

variable {d : Draft α} (j : Job α)

theorem lays_buildRoom (roomId : String) {p : CheckedPlan α} (fine : p.size.problems = [])
    (f : Fragment α) (a : Attachment α) :
    Lays j d (j.buildRoom roomId p f a : Work σ α Unit) fun _ => True :=
  (j.adds_buildRoom roomId p f a).mono fun _ _ raises => ⟨trivial, .one (.room fine raises)⟩

theorem lays_connectRoom {roomId : String} {bounds : Rect α} (there : d.boundsOf roomId = .ok bounds)
    (others : List String) :
    Lays j d (connectRoom roomId bounds others : Work σ α Unit) fun _ => True := by
  induction others generalizing d with
  | nil => exact .pure trivial
  | cons other rest ih =>
    refine .ask (.boundsOf other) fun b found => .ask (.draw _) fun doors ⟨s, t, drawn⟩ => ?_
    have connection : Lays j d (Work.write fun d => d.connect ⟨other, roomId, doors.1, doors.2⟩ :
        Work σ α Unit) fun _ => True := by
      refine (Adds.connect _).mono ?_
      rintro _ _ rfl
      exact ⟨trivial, .one (.connection found there drawn)⟩
    exact .bind connection fun _ k _ => ih (Draft.boundsOf_gain there k)

theorem lays_connectRooms (anchors : List String) (roomId : String) :
    Lays j d (connectRooms anchors roomId : Work σ α Unit) fun _ => True := by
  refine .look (.ask (.boundsOf roomId) fun bounds there => j.lays_connectRoom there _) ?_
  intro e alike
  have same : parents e anchors roomId = parents d anchors roomId := by
    rw [parents, parents, alike.startRoom]
  rw [same]

theorem lays_room (data : RoomData α) (incoming : List (Fragment α)) :
    Lays j d (j.room data incoming : Work σ α (Outcome α)) fun _ => True := by
  refine .ask (j.asks_checkedPlan _) fun p kept => .ask (j.asks_single _) fun f _ => ?_
  refine .bind (j.lays_buildRoom _ kept.sizes f _) fun _ _ _ => ?_
  refine .bind (j.lays_connectRooms _ _) fun _ _ _ => ?_
  exact .ask (asks_continueFrom f _) fun g _ => .pure trivial

theorem lays_laterRooms (data : RoomChainData α) {p : CheckedPlan α} (fine : p.size.problems = [])
    (f : Fragment α) (ids : List String) {placed : List String} {last : String}
    (latest : last ∈ placed) :
    Lays j d (j.laterRooms data p f placed last ids : Work σ α String) fun _ => True := by
  induction ids generalizing d placed last with
  | nil => exact .pure trivial
  | cons id rest ih =>
    refine .ask (asks_nextAttachment _ _ latest) fun (anchor, a) _ => ?_
    refine .bind (j.lays_buildRoom id fine f a) fun _ _ _ => ?_
    exact .bind (j.lays_connectRooms [anchor] id) fun _ _ _ => ih (by simp)

theorem lays_roomChain (data : RoomChainData α) (incoming : List (Fragment α)) :
    Lays j d (j.roomChain data incoming : Work σ α (Outcome α)) fun _ => True := by
  refine .ask (j.asks_checkedPlan _) fun p kept => .ask (j.asks_single _) fun f _ => ?_
  refine .ask (j.asks_count _ _) fun n _ => ?_
  split
  · exact .pure trivial
  next first rest _ =>
    refine .bind (j.lays_buildRoom _ kept.sizes f _) fun _ _ _ => ?_
    refine .bind (j.lays_connectRooms _ _) fun _ _ _ => ?_
    refine .bind (j.lays_laterRooms data kept.sizes f rest (by simp)) fun last _ _ => ?_
    exact .ask (asks_continueFrom f last) fun g _ => .pure trivial

theorem lays_start (data : StartData α) :
    Lays j d (j.start data : Work σ α (Outcome α)) fun _ => True := by
  have set (area : SpawnArea) {offset : Point α} (lies : StartOffset σ offset) : Lays j d (do
      Work.write fun draft => draft.setPlayerStart area offset
      pure (j.everywhere Fragment.empty) : Work σ α (Outcome α)) fun _ => True := by
    refine .bind (P := fun _ => True) ((Adds.setPlayerStart area offset).mono ?_) fun _ _ _ =>
      .pure trivial
    rintro _ _ rfl
    exact ⟨trivial, .one (.start lies)⟩
  unfold start
  dsimp only
  split
  · refine .ask (.draw _) fun x ⟨s, t, across⟩ => .ask (.draw _) fun y ⟨s', t', down⟩ => ?_
    refine .ask (.known _) fun offset same => ?_
    exact same ▸ set _ (.drawn across down)
  · exact .ask (.known _) fun offset same => same ▸ set _ .middle

theorem lays_output (data : OutputData α) (incoming : List (Fragment α)) :
    Lays j d (j.output data incoming : Work σ α (Outcome α)) fun _ => True := by
  refine .ask (j.asks_single incoming) fun f _ => .ask (j.asks_anchor f) fun roomId _ => ?_
  refine .ask (.boundsOf roomId) fun bounds there => ?_
  refine .bind (P := fun _ => True) ((Adds.addExit _).mono ?_) fun _ _ _ => .pure trivial
  rintro _ _ rfl
  exact ⟨trivial, .one (.exit there rfl)⟩

/-- Each entity lies where it was drawn for the room. -/
theorem lays_placeFrom {roomId : String} (type : Value α) (metadata : Metadata α)
    (radius : Option α) {bounds : Rect α} (there : d.boundsOf roomId = .ok bounds) (i n : Nat) :
    Lays j d (j.placeFrom roomId type metadata radius bounds i n : Work σ α (List (Entity α)))
      fun es => ∀ e ∈ es, ∃ s t : σ, entityPoint bounds radius s = .ok e.position t := by
  induction n generalizing d i with
  | zero => exact .pure (by simp)
  | succ n ih =>
    refine .ask (.draw _) fun position ⟨s, t, drawn⟩ => ?_
    refine .ask (.lift _) fun id _ => ?_
    refine .bind (P := fun _ => True) ((adds_addEntity roomId _).mono ?_) fun _ k _ => ?_
    · rintro _ _ rfl
      exact ⟨trivial, .one (.entity there drawn)⟩
    · refine .bind (ih (Draft.boundsOf_gain there k) (i + 1)) fun es _ others => .pure ?_
      exact List.forall_mem_cons.2 ⟨⟨s, t, drawn⟩, others⟩

theorem lays_place (roomId : String) (type : Value α) (metadata : Metadata α) (radius : Option α)
    (n : Nat) :
    Lays j d (j.place roomId type metadata radius n : Work σ α (List (Entity α))) fun es =>
      ∃ bounds, d.boundsOf roomId = .ok bounds ∧
        ∀ e ∈ es, ∃ s t : σ, entityPoint bounds radius s = .ok e.position t := by
  refine .ask (.boundsOf roomId) fun bounds there => ?_
  exact (j.lays_placeFrom type metadata radius there 0 n).mono fun es drawn => ⟨bounds, there, drawn⟩

theorem lays_spawnPoints {roomId : String} {bounds : Rect α} {radius : Option α}
    (there : d.boundsOf roomId = .ok bounds) {es : List (Entity α)}
    (drawn : ∀ e ∈ es, ∃ s t : σ, entityPoint bounds radius s = .ok e.position t) :
    Lays j d (forIn es PUnit.unit fun e _ => do
      Work.write fun draft => draft.addSpawnPoint ⟨e.id, e.type, e.position, roomId⟩
      pure (ForInStep.yield PUnit.unit) : Work σ α PUnit) fun _ => True := by
  refine (adds_spawnPoints roomId es).mono fun _ k same => ⟨trivial, ?_⟩
  subst same
  induction es generalizing d with
  | nil => exact .none
  | cons e rest ih =>
    obtain ⟨⟨s, t, first⟩, others⟩ := List.forall_mem_cons.1 drawn
    have more := ih (Draft.boundsOf_gain there { spawnPoints := [e.spawnPoint roomId] }) others
    simpa [Contribution.append_def] using Pieces.more (.spawnPoint there first) more

theorem lays_spawnPoint (data : SpawnPointData α) (incoming : List (Fragment α)) :
    Lays j d (j.spawnPoint data incoming : Work σ α (Outcome α)) fun _ => True := by
  refine .ask (j.asks_single incoming) fun f _ => .ask (j.asks_anchor f) fun roomId _ => ?_
  refine .ask (.lift _) fun negative _ => .ite (fun _ => .fail_bind j _) fun _ => ?_
  refine .ask (j.asks_count _ _) fun n _ => ?_
  refine .ite (fun _ => .ask (.known _) fun radius _ => ?_)
    fun _ => .ask (.map some (.lift _)) fun radius _ => ?_
  all_goals
    refine Lays.bind (j.lays_place roomId _ _ _ n) fun es k ⟨bounds, there, drawn⟩ => ?_
    refine .bind (j.lays_spawnPoints (Draft.boundsOf_gain there k) drawn) fun _ _ _ => ?_
    exact .pure trivial

theorem lays_lootDrop (data : LootDropData α) (incoming : List (Fragment α)) :
    Lays j d (j.lootDrop data incoming : Work σ α (Outcome α)) fun _ => True := by
  refine .ask (j.asks_single incoming) fun f _ => .ask (j.asks_anchor f) fun roomId _ => ?_
  refine .ask (.lift _) fun least _ => .ite (fun _ => .ask (.lift _) fun fits _ => ?_)
    fun _ => .ask (.known _) fun fits _ => ?_
  all_goals
    refine .ite (fun _ => .failOver_bind j _ _) fun _ => .ask (.draw _) fun drops _ => ?_
    refine .ite (fun _ => .ask (j.asks_count _ _) fun n _ => ?_) fun _ => Lays.pure trivial
    exact Lays.bind (j.lays_place roomId _ _ _ n) fun es k _ => .pure trivial

theorem lays_encounter (data : EncounterData α) (incoming : List (Fragment α)) :
    Lays j d (j.encounter data incoming : Work σ α (Outcome α)) fun _ => True := by
  refine .ask (j.asks_single incoming) fun f _ => .ask (j.asks_anchor f) fun roomId _ => ?_
  refine .ask (.lift _) fun difficulty _ => ?_
  split
  · exact .failOver j _ _
  · refine .ask (j.asks_count _ _) fun n _ => ?_
    exact .bind (j.lays_place roomId _ _ _ n) fun es k _ => .pure trivial

theorem lays_prop (data : PropData α) (incoming : List (Fragment α)) :
    Lays j d (j.prop data incoming : Work σ α (Outcome α)) fun _ => True := by
  refine .ask (j.asks_single incoming) fun f _ => .ask (j.asks_anchor f) fun roomId _ => ?_
  refine .ask (j.asks_count _ _) fun n _ => ?_
  exact .bind (j.lays_place roomId _ _ _ n) fun es k _ => .pure trivial

/-- Whatever a node adds it adds piece by piece. -/
theorem lays_perform (rooted : d.Rooted) {incoming : List (Fragment α)}
    (arrived : ∀ f ∈ incoming, f.RootedIn d) :
    Lays j d (j.perform incoming : Work σ α (Outcome α)) fun _ => True := by
  have passing (nothing : ∀ k, j.node.Contributes (CountRange.Draws σ) k → k = {}) :
      Lays j d (j.perform incoming : Work σ α (Outcome α)) fun _ => True := by
    refine (j.adds_perform rooted arrived).mono fun _ k performed => ⟨trivial, ?_⟩
    rw [nothing k performed.contributes]
    exact .none
  unfold Node.Contributes at passing
  cases kind : j.node.data with
  | start data =>
    rw [perform, kind]
    exact j.lays_start data
  | output data =>
    rw [perform, kind]
    exact j.lays_output data incoming
  | room data =>
    rw [perform, kind]
    exact j.lays_room data incoming
  | roomChain data =>
    rw [perform, kind]
    exact j.lays_roomChain data incoming
  | spawnPoint data =>
    rw [perform, kind]
    exact j.lays_spawnPoint data incoming
  | lootDrop data =>
    rw [perform, kind]
    exact j.lays_lootDrop data incoming
  | encounter data =>
    rw [perform, kind]
    exact j.lays_encounter data incoming
  | prop data =>
    rw [perform, kind]
    exact j.lays_prop data incoming
  | branch | merge | sequence | randomSelect | condition | distribution =>
    rw [kind] at passing
    exact passing fun k same => same

end Job

end Dungeon
