import Dungeon.Proofs.Numbered
import Dungeon.Proofs.Work.Building
import Dungeon.Proofs.Work.Sparing

/-!
# When a room id is taken

A room node asks for one room id and a chain node for numbered ones. An id that a node finds taken is
one of those it asks for, and it was in the draft before the node set to work: a chain does not stand
in its own way.
-/

namespace Dungeon

variable {σ α β γ : Type}

namespace Placement

theorem mem_roomIds {nodeId x : String} {count : Nat} :
    x ∈ roomIds nodeId count ↔ ∃ i < count, x = nodeId ++ "_" ++ toString i := by
  simp [roomIds, eq_comm]

theorem nodup_roomIds (nodeId : String) (count : Nat) : (roomIds nodeId count).Nodup :=
  List.Nodup.map (fun _ _ same => ((Text.numbered_inj rfl rfl).1 same).2) List.nodup_range

end Placement

/-- The node may ask for this id for a room. -/
def Node.Names (n : Node α) (x : String) : Prop :=
  (n.kind = .room ∧ x = n.id) ∨
    (n.kind = .roomChain ∧ ∃ i : Nat, x = n.id ++ "_" ++ toString i)

namespace Work

/-- On the draft `d`, an id that is found taken is one asked for and was in the draft before. -/
def Takes (d : Draft α) (asked : String → Prop) (w : Work σ α β) : Prop :=
  ∀ ⦃s f t x⦄, w ⟨d, s⟩ = .error f t → f.taken? = some x → asked x ∧ x ∈ d.ids

namespace Takes

variable {d : Draft α} {asked later : String → Prop} {w : Work σ α β} {f : β → Work σ α γ}

theorem of_spares (spares : Spares w) : Takes d asked w := by
  intro s f t x failed taken
  rw [spares failed] at taken
  cases taken

/-- The first step lists the rooms `names`, which the second one does not ask for. -/
theorem bind (first : Takes d asked w) (names : List String)
    (lists : ∀ ⦃s v t⦄, w ⟨d, s⟩ = .ok v t → t.draft.ids = d.ids ++ names)
    (apart : ∀ x, later x → x ∉ names) (within : ∀ x, later x → asked x)
    (second : ∀ v e, Takes e later (f v)) : Takes d asked (w >>= f) := by
  intro s fault t x failed taken
  rcases bind_eq_error.1 failed with failed | ⟨v, s', done, failed⟩
  · exact first failed taken
  · obtain ⟨wanted, there⟩ := second v s'.draft failed taken
    rw [lists done] at there
    exact ⟨within x wanted, (List.mem_append.1 there).resolve_right (apart x wanted)⟩

/-- A step that places nothing. -/
theorem ask {P : β → Prop} (spares : Spares w) (asks : Asks d w P)
    (second : ∀ v, P v → ∀ e, Takes e asked (f v)) : Takes d asked (w >>= f) := by
  intro s fault t x failed taken
  rcases bind_eq_error.1 failed with failed | ⟨v, s', done, failed⟩
  · exact of_spares spares failed taken
  · obtain ⟨k, draft, ⟨none_added, post⟩, _⟩ := asks done
    have there := second v post s'.draft failed taken
    rwa [draft, none_added, Draft.gain_empty] at there

theorem ite {c : Prop} [Decidable c] {x y : Work σ α β} (yes : Takes d asked x) (no : Takes d asked y) :
    Takes d asked (if c then x else y) := by
  split
  · exact yes
  · exact no

theorem look {f : Draft α → Work σ α β} (second : ∀ e, Takes d asked (f e)) :
    Takes d asked (draft >>= f) := by
  intro s fault t x failed taken
  rcases bind_eq_error.1 failed with failed | ⟨e, s', done, failed⟩
  · cases failed
  · cases done
    exact second _ failed taken

theorem then_spares (first : Takes d asked w) (second : ∀ v, Spares (f v)) :
    Takes d asked (w >>= f) := by
  intro s fault t x failed taken
  rcases bind_eq_error.1 failed with failed | ⟨v, s', _, failed⟩
  · exact first failed taken
  · rw [second v failed] at taken
    cases taken

theorem mono (h : Takes d asked w) {more : String → Prop} (within : ∀ x, asked x → more x) :
    Takes d more w := by
  intro s f t x failed taken
  obtain ⟨wanted, there⟩ := h failed taken
  exact ⟨within x wanted, there⟩

end Takes

end Work

namespace Job

open Work

variable {d : Draft α} (j : Job α)

theorem takes_addTagged (r : Room α) (tags : Value α) (root : Bool) :
    Takes d (· = r.id) (tryWrite fun d => d.addTagged r tags root : Work σ α Unit) := by
  intro s f t x failed taken
  by_cases there : r.id ∈ d.ids
  · simp only [tryWrite, Draft.addTagged, if_pos (Draft.hasRoom_iff.2 there)] at failed
    cases failed
    cases taken
    exact ⟨rfl, there⟩
  · have free : ¬ d.hasRoom r.id = true := mt Draft.hasRoom_iff.1 there
    cases parts : tags.parts with
    | ok given =>
      simp only [tryWrite, d.addTagged_eq root there parts] at failed
      cases failed
    | error e =>
      have refused : d.addTagged r tags root = .error e := by
        rw [Draft.addTagged, if_neg free, parts]
        rfl
      simp only [tryWrite, refused] at failed
      cases failed
      rw [(plain_parts tags _ parts).other] at taken
      cases taken

variable [Source σ α]

theorem spares_chooseShape (shapes : Setting (List RoomShape) α) :
    Spares (chooseShape shapes : Work σ α (Except Fault String)) := by
  cases shapes with
  | proper given => exact .bind (spares_draw (Draw.plain_choose _)) fun s => .pure _
  | foreign v =>
    refine .bind (spares_lift (plain_length v)) fun n => ?_
    refine .bind (spares_draw (Draw.plain_integer _ _)) fun i => ?_
    split
    · exact .throw rfl
    · exact .pure _

variable [Scalar α]

omit [Scalar α] in
theorem asks_chosenShape (shapes : Setting (List RoomShape) α) :
    Asks d (chooseShape shapes : Work σ α (Except Fault String)) (FailsOnly Fault.Plain) := by
  cases shapes with
  | proper given => exact .ask (.draw _) fun s _ => .pure ⟨rfl, .ok _⟩
  | foreign v =>
    refine .ask (.lift _) fun count _ => .ask (.draw _) fun i _ => ?_
    split
    · intro s v t done
      cases done
    · exact .pure ⟨rfl, .error rfl⟩

theorem takes_buildRoom (roomId : String) (p : CheckedPlan α) (f : Fragment α) (a : Attachment α) :
    Takes d (· = roomId) (j.buildRoom roomId p f a : Work σ α Unit) := by
  have drawn (low high : α) := spares_draw (α := α) (Draw.plain_between (σ := σ) low high)
  refine .ask (drawn _ _) (.draw _) fun width _ _ => .ask (drawn _ _) (.draw _) fun height _ _ => ?_
  refine .ask (spares_chooseShape _) (asks_chosenShape _) fun shape plain _ => ?_
  refine .ask (spares_draw (Draw.plain_integer _ _)) (.draw _) fun doors _ _ => ?_
  dsimp only
  split
  on_goal 1 => refine .ask (spares_boundsOf _) (.boundsOf _) fun ref _ _ => ?_
  on_goal 2 => refine .ask (.pure _) (.known _) fun ref _ _ => ?_
  all_goals
    refine .look fun e => .ask (spares_draw (Placement.plain_placeBounds ..)) (.draw _) ?_
    rintro ⟨bounds, overlapped⟩ _ _
    refine .ask (spares_lift plain) (.lift _) fun name _ _ => .ite ?_ (takes_addTagged ..)
    refine .ask (spares_lift (plain_writing _ _)) (.lift _) fun retries _ _ => ?_
    refine .bind (.of_spares (spares_write _)) [] ?_ (by simp) (fun _ h => h)
      fun _ _ => takes_addTagged ..
    intro s v t done
    cases done
    simp [Draft.ids, Draft.warn]

theorem spares_connectRooms (anchors : List String) (roomId : String) :
    Spares (connectRooms anchors roomId : Work σ α Unit) := by
  have connected (bounds : Rect α) (others : List String) :
      Spares (connectRoom roomId bounds others : Work σ α Unit) := by
    induction others with
    | nil => exact .pure _
    | cons other rest ih =>
      refine .bind (spares_boundsOf _) fun _ => ?_
      exact .bind (spares_draw (Placement.plain_facingDoors _ _)) fun _ =>
        .bind (spares_write _) fun _ => ih
  exact .bind spares_draft fun d => .bind (spares_boundsOf _) fun bounds => connected bounds _

omit [Source σ α] in
theorem spares_continueFrom (f : Fragment α) (roomId : String) :
    Spares (continueFrom f roomId : Work σ α (Fragment α)) :=
  .bind (spares_boundsOf _) fun _ => .pure _

theorem spares_nextAttachment (style : ConnectionStyle) (forward : Direction)
    (placed : List String) (last : String) :
    Spares (nextAttachment style forward placed last : Work σ α (String × Attachment α)) := by
  cases style with
  | linear => exact .pure _
  | branching =>
    exact .bind (spares_draw (Draw.plain_choose _)) fun _ =>
      .bind (spares_draw (Draw.plain_choose _)) fun _ => .pure _

/-- Placing a room, connecting it, and then work that does not ask for its id again. -/
theorem takes_placedRoom {roomId : String} {asked later : String → Prop} {p : CheckedPlan α}
    {f : Fragment α} {a : Attachment α} {anchors : List String} {rest : Work σ α β}
    (wanted : asked roomId) (within : ∀ x, later x → asked x) (new : ¬ later roomId)
    (next : ∀ e, Takes e later rest) :
    Takes d asked (do j.buildRoom roomId p f a; connectRooms anchors roomId; rest) := by
  have built : Takes d asked (j.buildRoom roomId p f a : Work σ α Unit) :=
    (j.takes_buildRoom roomId p f a).mono fun x same => same ▸ wanted
  refine built.bind [roomId] ?_ ?_ within fun _ e => ?_
  · intro s v t done
    obtain ⟨k, draft, raised, _⟩ := j.adds_buildRoom roomId p f a done
    obtain ⟨_, _, _, _, _, _, _, _, _, _, _, rfl⟩ := raised
    rw [draft, Draft.ids_gain]
    rfl
  · intro x later_asked same
    exact new (List.mem_singleton.1 same ▸ later_asked)
  · refine .bind (.of_spares (spares_connectRooms _ _)) [] ?_ (by simp) (fun _ h => h)
      fun _ e => next e
    intro s v t done
    obtain ⟨k, draft, ⟨_, rfl, _⟩, _⟩ := adds_connectRooms anchors roomId done
    rw [draft, Draft.ids_gain]
    rfl

theorem takes_laterRooms (data : RoomChainData α) (p : CheckedPlan α) (f : Fragment α)
    {ids : List String} (distinct : ids.Nodup) {placed : List String} {last : String}
    (latest : last ∈ placed) :
    Takes d (· ∈ ids) (j.laterRooms data p f placed last ids : Work σ α String) := by
  induction ids generalizing d placed last with
  | nil => exact .of_spares (.pure _)
  | cons id rest ih =>
    obtain ⟨new, distinct⟩ := List.nodup_cons.1 distinct
    refine .ask (spares_nextAttachment ..) (asks_nextAttachment _ _ latest) fun (anchor, a) _ _ => ?_
    exact j.takes_placedRoom (by simp) (fun x => List.mem_cons_of_mem id) new
      fun e => ih distinct (by simp)

theorem takes_room (data : RoomData α) (incoming : List (Fragment α)) :
    Takes d (· = j.node.id) (j.room data incoming : Work σ α (Outcome α)) := by
  refine .ask (j.spares_checkedPlan _) (j.asks_checkedPlan _) fun p _ _ => ?_
  refine .ask (j.spares_single _) (j.asks_single _) fun f _ _ => ?_
  refine j.takes_placedRoom rfl (fun _ (h : False) => h.elim) id fun e => ?_
  exact .of_spares (.bind (spares_continueFrom _ _) fun _ => .pure _)

theorem takes_roomChain (data : RoomChainData α) (incoming : List (Fragment α)) :
    Takes d (fun x => ∃ i : Nat, x = j.node.id ++ "_" ++ toString i)
      (j.roomChain data incoming : Work σ α (Outcome α)) := by
  refine .ask (j.spares_checkedPlan _) (j.asks_checkedPlan _) fun p _ _ => ?_
  refine .ask (j.spares_single _) (j.asks_single _) fun f _ _ => ?_
  refine .ask (j.spares_count _ _) (j.asks_count _ _) fun n _ e => ?_
  have numbered (x : String) (member : x ∈ Placement.roomIds j.node.id n) :
      ∃ i : Nat, x = j.node.id ++ "_" ++ toString i := by
    obtain ⟨i, _, same⟩ := Placement.mem_roomIds.1 member
    exact ⟨i, same⟩
  split
  · exact .of_spares (.pure _)
  next first rest ids =>
    have distinct := Placement.nodup_roomIds j.node.id n
    rw [ids] at numbered distinct
    obtain ⟨new, distinct⟩ := List.nodup_cons.1 distinct
    have later (e : Draft α) : Takes e (· ∈ rest) (do
        let last ← j.laterRooms data p f [first] first rest
        return j.everywhere (← continueFrom f last) : Work σ α (Outcome α)) :=
      (j.takes_laterRooms data p f distinct (by simp)).then_spares fun last =>
        .bind (spares_continueFrom _ _) fun _ => .pure _
    exact j.takes_placedRoom (numbered first (by simp))
      (fun x member => numbered x (List.mem_cons_of_mem first member)) new later

/-- An id that a node finds taken is one that the node names. -/
theorem takes_perform (incoming : List (Fragment α)) :
    Takes d j.node.Names (j.perform incoming : Work σ α (Outcome α)) := by
  unfold perform
  cases data : j.node.data with
  | room given =>
    have kind : j.node.kind = .room := by rw [Node.kind, data]; rfl
    exact (j.takes_room given incoming).mono fun x own => .inl ⟨kind, own⟩
  | roomChain given =>
    have kind : j.node.kind = .roomChain := by rw [Node.kind, data]; rfl
    exact (j.takes_roomChain given incoming).mono fun x numbered => .inr ⟨kind, numbered⟩
  | start => exact .of_spares (j.spares_start _)
  | output => exact .of_spares (j.spares_output _ incoming)
  | branch => exact .of_spares (j.spares_branch _ incoming)
  | merge => exact .of_spares (j.spares_merge incoming)
  | spawnPoint => exact .of_spares (j.spares_spawnPoint _ incoming)
  | lootDrop => exact .of_spares (j.spares_lootDrop _ incoming)
  | encounter => exact .of_spares (j.spares_encounter _ incoming)
  | prop => exact .of_spares (j.spares_prop _ incoming)
  | randomSelect => exact .of_spares (j.spares_randomSelect _ incoming)
  | sequence => exact .of_spares (j.spares_merge incoming)
  | condition => exact .of_spares (j.spares_condition _ incoming)
  | distribution => exact .of_spares (j.spares_distribution _ incoming)

end Job

end Dungeon
