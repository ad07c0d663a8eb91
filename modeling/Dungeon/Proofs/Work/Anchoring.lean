import Dungeon.Proofs.Marking
import Dungeon.Proofs.Work.Arity
import Dungeon.Proofs.Work.Performing
import Dungeon.Proofs.Work.Stamping
import Dungeon.Proofs.Work.Taken

/-!
# Work on rooms that are there

On a rooted draft and with rooted fragments, every room that a node asks for is there. So the only keys
that can be missing are those that the settings of the node get wrong, and a node has no room to attach to
only when nothing that came to it has an anchor. Whatever a node has placed before it fails stays.
-/

namespace Dungeon

variable {σ α β γ : Type}

/-! What a node without a room says -/

/-- A node of this kind works in the room that its fragment comes from. -/
def NodeKind.attaches (k : NodeKind) : Bool := k.isContent || k == .output

/-- What a node of this kind says when its fragment comes from no room. -/
def NodeKind.unattached (k : NodeKind) : String := k.name ++ " node has no room to attach to"

/-- Nothing that begins like this says that there is no room. -/
def Text.Strays (s : String) : Prop :=
  ∀ k ∈ NodeKind.all, ¬ s.toList <+: k.name.toList ++ " node has no room to attach to".toList

instance (s : String) : Decidable (Text.Strays s) := inferInstanceAs (Decidable (∀ _ ∈ _, _))

theorem NodeKind.mem_all (k : NodeKind) : k ∈ all := by cases k <;> decide

theorem NodeKind.toList_unattached (k : NodeKind) :
    k.unattached.toList = k.name.toList ++ " node has no room to attach to".toList :=
  String.toList_append

namespace Text

theorem Strays.append {s : String} (h : Strays s) (t : String) : Strays (s ++ t) := by
  intro k kind begins
  rw [String.toList_append] at begins
  exact h k kind ((List.prefix_append _ _).trans begins)

theorem Strays.ne_unattached {s : String} (h : Strays s) (k : NodeKind) : s ≠ k.unattached := by
  rintro rfl
  exact h k k.mem_all (k.toList_unattached ▸ List.prefix_refl _)

/-- What is said of rooms begins with a word and no number. -/
theorem strays_number (n : Nat) (t : String) : Strays (toString n ++ t) := by
  intro k _ ⟨rest, same⟩
  have said : toString n ++ (t ++ String.ofList rest) = k.unattached := by
    apply String.toList_inj.1
    rw [k.toList_unattached, ← same]
    simp
  have worded : Worded k.unattached := by cases k <;> exact .append ⟨_, rfl, rfl⟩ _
  exact not_worded_number n _ (said ▸ worded)

theorem strays_joined {separator : String} {parts : List String} (some_parts : parts ≠ [])
    (each : ∀ p ∈ parts, Strays p) : Strays (Value.joined separator parts) := by
  match parts with
  | [] => exact absurd rfl some_parts
  | [p] => exact each p List.mem_cons_self
  | p :: q :: rest =>
    rw [joined_cons_cons]
    exact (each p List.mem_cons_self).append _

end Text

open Text (Strays)

/-- When the fault is reported as that of a node, it does not say that there is no room. -/
def Fault.Astray (f : Fault) : Prop := f.kind = .value → Strays f.message

theorem CountRange.strays_of_problems {range : CountRange} {name : String} (named : Strays name) :
    ∀ p ∈ range.problems name, Strays p := by
  intro p member
  rcases List.mem_append.1 member with first | second
  · split at first
    · obtain rfl := List.mem_singleton.1 first
      exact named.append _
    · cases first
  · split at second
    · obtain rfl := List.mem_singleton.1 second
      exact (((named.append _).append _).append _).append _
    · cases second

theorem astray_parts (v : Value α) : FailsOnly Fault.Astray v.parts := by
  unfold Value.parts
  split
  · exact .ok _
  · exact .error nofun

section
variable [Scalar α]

theorem SizeRange.strays_of_problems {range : SizeRange α} : ∀ p ∈ range.problems, Strays p := by
  intro p member
  rcases List.mem_append.1 member with first | second
  · split at first
    · obtain rfl := List.mem_singleton.1 first
      decide
    · cases first
  · split at second
    · obtain rfl := List.mem_singleton.1 second
      decide
    · cases second

theorem astray_compare (r : Value.Relation) (a b : Value α) :
    FailsOnly Fault.Astray (Value.compare r a b) :=
  .mapError (g := Value.Unordered.fault) (fun _ => nofun) _

theorem astray_toReal (v : Value α) : FailsOnly Fault.Astray v.toReal := by
  unfold Value.toReal
  split
  · exact .ok _
  · exact (failsOnly_toScalar _).mono fun f ⟨tooLarge, _⟩ => by rw [tooLarge]; exact nofun
  · split
    · exact .ok _
    · exact .error fun _ => .append (by decide) _
  · exact .error nofun

theorem astray_unwritable : Fault.unwritable.Astray := by
  intro _
  show Strays ("Exceeds the limit (" ++ toString Decimal.maxDigits ++
    " digits) for integer string conversion; use sys.set_int_max_str_digits() to increase the limit")
  rw [String.append_assoc]
  exact .append (by decide) _

theorem astray_sum (xs : List α) :
    FailsOnly Fault.Astray ((Scalar.sum xs).mapError Decimal.NoSum.fault) := by
  refine .mapError (fun e => ?_) _
  cases e with
  | overflow => exact nofun
  | undefined =>
    intro _
    show Strays "-inf + inf in fsum"
    decide

theorem astray_normalised (weights : List (Value α)) :
    FailsOnly Fault.Astray (normalised weights) := by
  refine failsOnly_normalised astray_compare astray_toReal astray_sum ?_ ?_ ?_ ?_ weights
  · exact fun got _ => .append (by decide) _
  · exact astray_unwritable
  · intro _
    show Strays "no weights given"
    decide
  · intro _
    show Strays "weights must not all be zero"
    decide

theorem astray_distribution [Source σ α] (name exponent rate : Value α) :
    Errs Fault.Astray (Draw.distribution name exponent rate : Draw σ α) := by
  refine .distribution (fun v => ?_) astray_toReal (fun _ _ => .append (by decide) _) astray_unwritable
    ?_ ?_ name _ _
  · unfold Value.key
    split
    · exact .error nofun
    · exact .ok v
  · intro _
    show Strays "power must be positive"
    decide
  · intro _
    show Strays "lambda must be positive"
    decide

end

/-! What the work of a node may fail with -/

/-- The key of the fault is one that the settings of the node get wrong: a condition asks for a comparison
that is not known or cannot be written, or shapes that are an object are asked for by number. -/
inductive Node.MissesKey [Scalar α] (n : Node α) : Fault → Prop
  | operator {d : ConditionData α} : n.data = .condition d → n.MissesKey (.missingKey d.operator.quoted)
  | unwritable {d : ConditionData α} : n.data = .condition d → d.operator.writable = false →
      n.MissesKey .unwritableKey
  | shape {plan : RoomPlan α} {fields : Fields α} {i : Nat} : n.plan? = some plan →
      plan.shapes = .foreign (.object fields) → n.MissesKey (.missingKey (toString i))

/-- The node works in the room of what came to it, and nothing of that has an anchor. -/
def Node.Unattached [Scalar α] (n : Node α) (incoming : List (Fragment α)) : Prop :=
  n.kind.attaches = true ∧ ∃ f, Fragment.merge incoming = .ok f ∧ f.anchors = []

/-- The fault has nothing to do with a room that is not there: if a key is missing the settings are to
blame, and if the node says that it has no room, none came to it. -/
structure Job.Fair [Scalar α] (j : Job α) (incoming : List (Fragment α)) (f : Fault) : Prop where
  key : f.kind = .key → j.node.MissesKey f
  room : f = .node j.node.id j.node.kind.unattached → j.node.Unattached incoming

namespace Job.Fair

variable [Scalar α] {j : Job α} {incoming : List (Fragment α)} {f : Fault}

theorem of_kind (no_key : f.kind ≠ .key) (no_node : f.kind ≠ .node) : j.Fair incoming f where
  key missing := absurd missing no_key
  room said := absurd (said ▸ rfl) no_node

theorem of_plain (plain : f.Plain) : j.Fair incoming f := of_kind plain.kind_ne_key plain.kind_ne_node

theorem of_strays {reason : String} (strays : Strays reason) :
    j.Fair incoming (.node j.node.id reason) where
  key := nofun
  room said := absurd (Fault.node.inj said).2 (strays.ne_unattached _)

theorem of_quoting {reason : String} (strays : Strays reason) (vs : List (Value α)) :
    j.Fair incoming (Fault.quoting vs (.node j.node.id reason)) := by
  rcases quoting_cases vs (.node j.node.id reason) with same | ⟨same, _⟩
  · rw [same]
    exact of_strays strays
  · rw [same]
    exact of_plain rfl

theorem of_missesKey (misses : j.node.MissesKey f) : j.Fair incoming f where
  key _ := misses
  room := by
    rintro rfl
    cases misses

end Job.Fair

namespace Work

/-- On the draft `d`, the work fails only with such faults, and then all rooms are still there. -/
def Fails (d : Draft α) (P : Fault → Prop) (w : Work σ α β) : Prop :=
  ∀ ⦃s f t⦄, w ⟨d, s⟩ = .error f t → P f ∧ d.ids <+: t.draft.ids

namespace Fails

variable {d : Draft α} {P : Fault → Prop} {w : Work σ α β} {f : β → Work σ α γ}

/-- Work that never fails. -/
theorem of_errs (never : Errs (fun _ => False) w) : Fails d P w :=
  fun _ _ _ failed => (never failed).elim

theorem pure (v : β) : Fails d P (pure v : Work σ α β) := of_errs (.pure v)

theorem throw {fault : Fault} (h : P fault) : Fails d P (throw fault : Work σ α β) := by
  intro s f t failed
  cases failed
  exact ⟨h, List.prefix_refl _⟩

theorem bind {Q : β → Contribution α → Prop} (first : Fails d P w) (adds : Adds d w Q)
    (second : ∀ v k, Q v k → Fails (d.gain k) P (f v)) : Fails d P (w >>= f) := by
  intro s fault t failed
  rcases bind_eq_error.1 failed with failed | ⟨v, ⟨_, stream⟩, done, failed⟩
  · exact first failed
  · obtain ⟨k, rfl, post, _⟩ := adds done
    obtain ⟨fair, kept⟩ := second v k post failed
    rw [Draft.ids_gain] at kept
    exact ⟨fair, (List.prefix_append _ _).trans kept⟩

/-- A step that adds nothing. -/
theorem ask {Q : β → Prop} (first : Fails d P w) (asks : Asks d w Q)
    (second : ∀ v, Q v → Fails d P (f v)) : Fails d P (w >>= f) := by
  refine first.bind asks fun v k ⟨none_added, post⟩ => ?_
  subst none_added
  simpa using second v post

theorem ite {c : Prop} [Decidable c] {x y : Work σ α β} (yes : Fails d P x) (no : Fails d P y) :
    Fails d P (if c then x else y) := by
  split
  · exact yes
  · exact no

theorem look {f : Draft α → Work σ α β} (second : Fails d P (f d)) : Fails d P (draft >>= f) := by
  intro s fault t failed
  rcases bind_eq_error.1 failed with failed | ⟨e, s', done, failed⟩
  · cases failed
  · cases done
    exact second failed

theorem lift {x : Except Fault β} (h : FailsOnly P x) : Fails d P (lift x : Work σ α β) := by
  intro s f t failed
  cases x with
  | ok v => cases failed
  | error e =>
    cases failed
    exact ⟨h _ rfl, List.prefix_refl _⟩

theorem draw {x : Draw σ β} (h : Errs P x) : Fails d P (draw x : Work σ α β) := by
  intro s f t failed
  unfold Work.draw at failed
  cases drawn : x s with
  | ok v stream =>
    rw [drawn] at failed
    cases failed
  | error e stream =>
    rw [drawn] at failed
    cases failed
    exact ⟨h drawn, List.prefix_refl _⟩

theorem write (f : Draft α → Draft α) : Fails d P (write f : Work σ α Unit) := of_errs (.write f)

theorem boundsOf {id : String} (there : id ∈ d.ids) :
    Fails d P (boundsOf id : Work σ α (Rect α)) := by
  refine .look (.lift ?_)
  obtain ⟨r, found⟩ := Option.isSome_iff_exists.1 (Draft.hasRoom_iff.2 there)
  unfold Draft.boundsOf
  rw [found]
  exact .ok _

theorem tryWrite {f : Draft α → Except Fault (Draft α)} (h : FailsOnly P (f d)) :
    Fails d P (tryWrite f : Work σ α Unit) := by
  intro s fault t failed
  unfold Work.tryWrite at failed
  cases tried : f d with
  | ok e =>
    simp only [tried] at failed
    cases failed
  | error e =>
    simp only [tried] at failed
    cases failed
    exact ⟨h _ tried, List.prefix_refl _⟩

theorem addEntity {roomId : String} (there : roomId ∈ d.ids) (e : Entity α) :
    Fails d P (Work.tryWrite fun d => d.addEntity roomId e : Work σ α Unit) := by
  refine .tryWrite ?_
  rw [d.addEntity_eq e there]
  exact .ok _

end Fails

end Work

namespace Job

open Work

section
variable [Scalar α] {d : Draft α} (j : Job α) {incoming : List (Fragment α)}

theorem fails_fail {reason : String} (strays : Strays reason) :
    Fails d (j.Fair incoming) (j.fail reason : Work σ α β) :=
  .throw (.of_strays strays)

theorem fails_fail_bind {reason : String} (strays : Strays reason) {f : β → Work σ α γ} :
    Fails d (j.Fair incoming) (j.fail reason >>= f) := by
  intro s fault t failed
  rcases bind_eq_error.1 failed with failed | ⟨_, _, done, _⟩
  · exact j.fails_fail strays failed
  · cases done

theorem fails_lift {x : Except Fault β} (plain : FailsOnly Fault.Plain x) :
    Fails d (j.Fair incoming) (lift x : Work σ α β) :=
  .lift (plain.mono fun _ => .of_plain)

theorem fails_draw {x : Draw σ β} (plain : Errs Fault.Plain x) :
    Fails d (j.Fair incoming) (draw x : Work σ α β) :=
  .draw fun _ _ _ failed => .of_plain (plain failed)

theorem fails_failOver {reason : String} (strays : Strays reason) (vs : List (Value α)) :
    Fails d (j.Fair incoming) (j.failOver vs reason : Work σ α β) :=
  .throw (.of_quoting strays vs)

theorem fails_failOver_bind {reason : String} (strays : Strays reason) (vs : List (Value α))
    {f : β → Work σ α γ} : Fails d (j.Fair incoming) (j.failOver vs reason >>= f) := by
  intro s fault t failed
  rcases bind_eq_error.1 failed with failed | ⟨_, _, done, _⟩
  · exact j.fails_failOver strays vs failed
  · cases done

/-- A plain fault is reported as that of the node. -/
theorem fails_blame {w : Work σ α β} (h : Fails d (fun f => f.Plain ∧ f.Astray) w) :
    Fails d (j.Fair incoming) (j.blame w) := by
  intro s f t failed
  unfold Job.blame at failed
  cases worked : w ⟨d, s⟩ with
  | ok v s' =>
    rw [worked] at failed
    cases failed
  | error e s' =>
    rw [worked] at failed
    obtain ⟨⟨plain, astray⟩, kept⟩ := h worked
    cases failed
    refine ⟨?_, kept⟩
    split
    next value => exact .of_strays (astray value)
    next => exact .of_plain plain

theorem fails_failWith {problems : List String} (strays : ∀ p ∈ problems, Strays p) :
    Fails d (j.Fair incoming) (j.failWith problems : Work σ α Unit) := by
  unfold failWith
  split
  next => exact .pure _
  next some_problems => exact j.fails_fail (Text.strays_joined (by simpa using some_problems) strays)

theorem fails_count [Source σ α] (s : Setting CountRange α) {name : String} (named : Strays name) :
    Fails d (j.Fair incoming) (j.count s name : Work σ α Nat) := by
  refine .ask (j.fails_lift (plain_require s _)) (.lift _) fun r _ => ?_
  refine .ask (j.fails_lift (plain_told r _)) (asks_told r _) fun problems same => ?_
  refine .ask (j.fails_failWith (same ▸ CountRange.strays_of_problems named)) (.failWith j _)
    fun _ _ => ?_
  exact .ask (j.fails_draw (Draw.plain_integer _ _)) (.draw _) fun n _ => .pure _

theorem fails_single :
    Fails d (j.Fair incoming) (j.single incoming : Work σ α (Fragment α)) :=
  .ite (j.fails_fail (by decide)) (j.fails_lift (plain_merge incoming))

theorem fails_checkedPlan (p : RoomPlan α) :
    Fails d (j.Fair incoming) (j.checkedPlan p : Work σ α (CheckedPlan α)) := by
  refine .ask (j.fails_lift (plain_require _ _)) (.lift _) fun own _ => ?_
  refine .ask (j.fails_lift (plain_sizeRange _ own)) (.lift _) fun size _ => ?_
  refine .ask (j.fails_lift (plain_require _ _)) (.lift _) fun doors _ => ?_
  refine .ask (j.fails_lift (plain_told doors _)) (asks_told doors _) fun problems same => ?_
  subst same
  refine .ask (j.fails_failWith fun p member => ?_) (.failWith j _) fun _ _ => .pure _
  rcases List.mem_append.1 member with member | noShapes
  · rcases List.mem_append.1 member with sizes | doors
    · exact SizeRange.strays_of_problems p sizes
    · exact CountRange.strays_of_problems (by decide) p doors
  · split at noShapes
    · cases noShapes
    · obtain rfl := List.mem_singleton.1 noShapes
      decide

theorem fails_pathWeights (weights : Value α) :
    Fails d (j.Fair incoming) (j.pathWeights weights : Work σ α (List α)) := by
  have scaled : Fails d (j.Fair incoming)
      (j.blame (lift (do normalised (← weights.parts))) : Work σ α (List α)) := by
    refine j.fails_blame (.lift (.bind ?_ fun vs _ => ?_))
    · exact fun f failed => ⟨plain_parts weights f failed, astray_parts weights f failed⟩
    · exact fun f failed => ⟨plain_normalised vs f failed, astray_normalised vs f failed⟩
  refine .ask (j.fails_lift (plain_length weights)) (.lift _) fun given _ => ?_
  refine .ite (j.fails_fail ?_) scaled
  rw [String.append_assoc, String.append_assoc]
  exact Text.strays_number _ _

/-- A node that attaches to the room of its fragment has one, or no anchor came to it. -/
theorem fails_anchored {rest : String → Work σ α β} (attaches : j.node.kind.attaches = true)
    (arrived : ∀ f ∈ incoming, f.RootedIn d)
    (next : ∀ id ∈ d.ids, Fails d (j.Fair incoming) (rest id)) :
    Fails d (j.Fair incoming) (do rest (← j.anchor (← j.single incoming))) := by
  refine .ask j.fails_single (j.asks_single incoming) fun f merged => ?_
  refine .ask (.look ?_) (j.asks_anchor f) next
  have rooted := Fragment.rootedIn_merge merged arrived
  split
  · exact .pure _
  next none_there =>
    refine .throw ⟨nofun, fun _ => ⟨attaches, f, merged, ?_⟩⟩
    -- An anchor would be one of the rooms.
    cases anchors : f.anchors with
    | nil => rfl
    | cons id more =>
      have anchor : f.anchor = some id := by rw [rooted.first, anchors]; rfl
      have there : d.hasRoom id = true := Draft.hasRoom_iff.2 (rooted.inside (by simp [anchors]))
      rw [anchor, Option.filter_some, if_pos there] at none_there
      cases none_there

variable [Source σ α]

theorem fails_place {roomId : String} (there : roomId ∈ d.ids) (type : Value α) (metadata : Metadata α)
    (radius : Option α) (count : Nat) : Fails d (j.Fair incoming)
      (j.place roomId type metadata radius count : Work σ α (List (Entity α))) := by
  have placed (bounds : Rect α) (n i : Nat) : Fails d (j.Fair incoming)
      (j.placeFrom roomId type metadata radius bounds i n : Work σ α (List (Entity α))) := by
    induction n generalizing d i with
    | zero => exact .pure _
    | succ n ih =>
      refine .ask (j.fails_draw (Placement.plain_entityPoint _ _)) (.draw _) fun position _ => ?_
      refine .ask (j.fails_lift (plain_writing _ _)) (.lift _) fun id _ => ?_
      refine .bind (.addEntity there _) (adds_addEntity _ _) fun _ k _ => ?_
      have still : roomId ∈ (d.gain k).ids := by simp [there]
      exact .bind (ih still (i + 1)) (j.adds_placeFrom _ _ _ _ _ _ _) fun _ _ _ => .pure _
  exact .ask (.boundsOf there) (.boundsOf roomId) fun bounds _ => placed bounds count 0

theorem fails_counted {roomId : String} (there : roomId ∈ d.ids) (s : Setting CountRange α)
    {name : String} (named : Strays name) (type : Value α) (metadata : Metadata α) :
    Fails d (j.Fair incoming) (do
      let n ← j.count s name
      let _ ← j.place roomId type metadata none n
      return Table.empty : Work σ α (Outcome α)) := by
  refine .ask (j.fails_count s named) (j.asks_count _ _) fun n _ => ?_
  exact .bind (j.fails_place there _ _ _ _) (j.adds_place _ _ _ _ _) fun _ _ _ => .pure _

theorem fails_start (data : StartData α) :
    Fails d (j.Fair incoming) (j.start data : Work σ α (Outcome α)) := by
  have placed (area : SpawnArea) (offset : Point α) :
      Fails d (j.Fair incoming) (do
        Work.write fun draft => draft.setPlayerStart area offset
        Pure.pure (j.everywhere Fragment.empty) : Work σ α (Outcome α)) :=
    .bind (.write _) (.setPlayerStart _ _) fun _ _ _ => .pure _
  have drawn := Draw.plain_between (σ := σ) (0.2 : α) 0.8
  unfold start
  dsimp only
  split
  · exact .ask (j.fails_draw drawn) (.draw _) fun x _ => .ask (j.fails_draw drawn) (.draw _) fun y _ =>
      .ask (.pure _) (.known _) fun _ _ => placed _ _
  · exact .ask (.pure _) (.known _) fun _ _ => placed _ _

/-! Nodes that attach to a room -/

omit [Source σ α] in
theorem fails_output (data : OutputData α) (attaches : j.node.kind.attaches = true)
    (arrived : ∀ f ∈ incoming, f.RootedIn d) :
    Fails d (j.Fair incoming) (j.output data incoming : Work σ α (Outcome α)) := by
  refine j.fails_anchored attaches arrived fun roomId there => ?_
  refine .ask (.boundsOf there) (.boundsOf roomId) fun bounds _ => ?_
  exact .bind (.write _) (.addExit _) fun _ _ _ => .pure _

theorem fails_spawnPoint (data : SpawnPointData α) (attaches : j.node.kind.attaches = true)
    (arrived : ∀ f ∈ incoming, f.RootedIn d) :
    Fails d (j.Fair incoming) (j.spawnPoint data incoming : Work σ α (Outcome α)) := by
  have spawned (e : Draft α) (roomId : String) (es : List (Entity α)) :
      Fails e (j.Fair incoming) (do
        for e in es do
          Work.write fun draft => draft.addSpawnPoint ⟨e.id, e.type, e.position, roomId⟩
        return Table.empty : Work σ α (Outcome α)) := by
    refine .bind (.of_errs ?_) (adds_spawnPoints roomId es) fun _ _ _ => .pure _
    induction es with
    | nil => exact .pure _
    | cons e rest ih =>
      rw [List.forIn_cons]
      refine .bind (.bind (.write _) fun _ => .pure _) fun step => ?_
      cases step with
      | done => exact .pure _
      | yield => exact ih
  refine j.fails_anchored attaches arrived fun roomId there => ?_
  refine .ask (j.fails_lift (plain_compare _ _ _)) (.lift _) fun negative _ => ?_
  refine .ite (j.fails_fail_bind (by decide)) ?_
  refine .ask (j.fails_count _ (by decide)) (j.asks_count _ _) fun n _ => ?_
  have placed (radius : Option α) : Fails d (j.Fair incoming) (do
      let es ← j.place roomId data.entityType [] radius n
      for e in es do
        Work.write fun draft => draft.addSpawnPoint ⟨e.id, e.type, e.position, roomId⟩
      return Table.empty : Work σ α (Outcome α)) :=
    .bind (j.fails_place there _ _ _ _) (j.adds_place _ _ _ _ _) fun es _ _ => spawned _ _ es
  refine .ite (.ask (.pure _) (.known _) fun radius _ => placed radius) ?_
  refine .ask ?_ (.map some (.lift _)) fun radius _ => placed radius
  exact .ask (j.fails_lift (plain_toReal _)) (.lift _) fun _ _ => .pure _

theorem fails_lootDrop (data : LootDropData α) (attaches : j.node.kind.attaches = true)
    (arrived : ∀ f ∈ incoming, f.RootedIn d) :
    Fails d (j.Fair incoming) (j.lootDrop data incoming : Work σ α (Outcome α)) := by
  refine j.fails_anchored attaches arrived fun roomId there => ?_
  refine .ask (j.fails_lift (plain_compare _ _ _)) (.lift _) fun least _ => ?_
  have dropped (fits : Bool) : Fails d (j.Fair incoming) (do
      if !fits then
        j.failOver [data.dropChance] ("dropChance " ++ data.dropChance.plain ++ " outside [0, 1]")
      if ← Work.draw (Draw.chance data.dropChance) then
        let n ← j.count data.count "itemCount"
        let _ ← j.place roomId (.text "loot") (.ofTexts [("lootTable", data.lootTable)]) none n
      return Table.empty : Work σ α (Outcome α)) := by
    refine .ite (j.fails_failOver_bind (.append (.append (by decide) _) _) _) ?_
    refine .ask (j.fails_draw (Draw.plain_chance _)) (.draw _) fun drops _ => ?_
    exact .ite (j.fails_counted there _ (by decide) _ _) (.pure _)
  refine .ite ?_ (.ask (.pure _) (.known _) fun fits _ => dropped fits)
  exact .ask (j.fails_lift (plain_compare _ _ _)) (.lift _) fun fits _ => dropped fits

theorem fails_encounter (data : EncounterData α) (attaches : j.node.kind.attaches = true)
    (arrived : ∀ f ∈ incoming, f.RootedIn d) :
    Fails d (j.Fair incoming) (j.encounter data incoming : Work σ α (Outcome α)) := by
  refine j.fails_anchored attaches arrived fun roomId there => ?_
  refine .ask (j.fails_lift (plain_key _)) (.lift _) fun difficulty _ => ?_
  split
  · exact j.fails_failOver (.append (by decide) _) _
  · exact j.fails_counted there _ (by decide) _ _

theorem fails_prop (data : PropData α) (attaches : j.node.kind.attaches = true)
    (arrived : ∀ f ∈ incoming, f.RootedIn d) :
    Fails d (j.Fair incoming) (j.prop data incoming : Work σ α (Outcome α)) :=
  j.fails_anchored attaches arrived fun roomId there => j.fails_counted there _ (by decide) _ _

/-! Nodes that direct the flow -/

omit [Source σ α] in
theorem fails_merge : Fails d (j.Fair incoming) (j.merge incoming : Work σ α (Outcome α)) :=
  .ask j.fails_single (j.asks_single incoming) fun _ _ => .pure _

theorem fails_branch (data : BranchData α) :
    Fails d (j.Fair incoming) (j.branch data incoming : Work σ α (Outcome α)) := by
  refine .ask j.fails_single (j.asks_single incoming) fun f _ => ?_
  refine .ask (j.fails_pathWeights _) (j.asks_pathWeights _) fun weights _ => .ite ?_ (.pure _)
  exact .ask (j.fails_draw (Draw.plain_weightedIndex _)) (.draw _) fun i _ => .pure _

theorem fails_randomSelect (data : RandomSelectData α) :
    Fails d (j.Fair incoming) (j.randomSelect data incoming : Work σ α (Outcome α)) := by
  refine .ask j.fails_single (j.asks_single incoming) fun f _ => ?_
  refine .ask (j.fails_pathWeights _) (j.asks_pathWeights _) fun weights _ => ?_
  exact .ask (j.fails_draw (Draw.plain_weightedIndex _)) (.draw _) fun i _ => .pure _

omit [Source σ α] in
theorem fails_condition (data : ConditionData α) (kind : j.node.data = .condition data) :
    Fails d (j.Fair incoming) (j.condition data incoming : Work σ α (Outcome α)) := by
  refine .ask j.fails_single (j.asks_single incoming) fun f _ => ?_
  refine .ask (j.fails_lift (plain_key _)) (.lift _) fun name _ => ?_
  split
  · exact j.fails_failOver (.append (.append (by decide) _) _) _
  · split
    · exact .pure _
    next fault failed =>
      refine .ite (j.fails_failOver ?_ _) (.throw ?_)
      · exact .append (.append (.append (.append (.append (by decide) _) _) _) _) _
      · rcases failsOnly_operator _ _ _ _ failed with plain | rfl | ⟨rfl, unwritable⟩
        · exact .of_plain plain
        · exact .of_missesKey (.operator kind)
        · exact .of_missesKey (.unwritable kind unwritable)

theorem fails_distribution (data : DistributionData α) :
    Fails d (j.Fair incoming) (j.distribution data incoming : Work σ α (Outcome α)) := by
  refine .ask j.fails_single (j.asks_single incoming) fun f _ => ?_
  refine .ask (j.fails_lift (plain_compare _ _ _)) (.lift _) fun reversed _ => ?_
  refine .ite (j.fails_failOver_bind (.append (.append (.append (by decide) _) _) _) _) ?_
  have unit : Fails d (j.Fair incoming)
      (j.blame (draw (Draw.distribution data.distribution data.power data.rate)) : Work σ α α) :=
    j.fails_blame (.draw fun _ _ _ failed =>
      ⟨Draw.plain_distribution _ _ _ failed, astray_distribution _ _ _ failed⟩)
  refine .ask unit (.blame j (.draw _)) fun u _ => ?_
  refine .ask (j.fails_lift (plain_between _ _ _)) (.lift _) fun x _ => ?_
  exact .ask (j.fails_lift (plain_key _)) (.lift _) fun name _ => .pure _

/-! Nodes that build rooms -/

theorem fails_chooseShape {plan : RoomPlan α} (plans : j.node.plan? = some plan)
    {shapes : Setting (List RoomShape) α} (own : shapes = plan.shapes) :
    Fails d (j.Fair incoming) (chooseShape shapes : Work σ α (Except Fault String)) := by
  cases shapes with
  | proper given => exact .ask (j.fails_draw (Draw.plain_choose _)) (.draw _) fun s _ => .pure _
  | foreign v =>
    refine .ask (j.fails_lift (plain_length v)) (.lift _) fun n _ => ?_
    refine .ask (j.fails_draw (Draw.plain_integer _ _)) (.draw _) fun i ⟨_, _, drawn⟩ => ?_
    split
    next fields =>
      -- The number that is asked for as a key is not negative.
      obtain ⟨_, _, least⟩ := Draw.integer_eq_ok drawn
      obtain ⟨m, rfl⟩ : ∃ m : Nat, i = m := ⟨i.toNat, by omega⟩
      exact .throw (.of_missesKey (.shape plans own.symm))
    · exact .pure _

theorem fails_buildRoom {plan : RoomPlan α} (plans : j.node.plan? = some plan) {p : CheckedPlan α}
    (kept : p.Keeps plan) (roomId : String) (f : Fragment α) {a : Attachment α}
    {anchors : List String} (anchored : d.Anchored a.anchor anchors) :
    Fails d (j.Fair incoming) (j.buildRoom roomId p f a : Work σ α Unit) := by
  have drawn (low high : α) :
      Fails d (j.Fair incoming) (draw (Draw.between low high) : Work σ α α) :=
    j.fails_draw (Draw.plain_between low high)
  refine .ask (drawn _ _) (.draw _) fun width _ => .ask (drawn _ _) (.draw _) fun height _ => ?_
  refine .ask (j.fails_chooseShape plans kept.shapes) (asks_chosenShape _) fun shape plain => ?_
  refine .ask (j.fails_draw (Draw.plain_integer _ _)) (.draw _) fun doors _ => ?_
  have added (e : Draft α) (r : Room α) (root : Bool) : Fails e (j.Fair incoming)
      (tryWrite fun d => d.addTagged r p.tags root : Work σ α Unit) := by
    have taken (id : String) : j.Fair incoming (.roomTaken id) := .of_kind nofun nofun
    refine .tryWrite (.ite (.error (taken _)) (.bind ?_ fun _ _ => .ite (.error (taken _)) (.ok _)))
    exact (plain_parts _).mono fun _ => .of_plain
  have placed (ref : Rect α) : Fails d (j.Fair incoming) (do
      let placed := (← Work.draft).placed
      let place ← Work.draw
        (Placement.placeBounds ref a.direction a.lateral width height placed j.retries)
      let shape ← Work.lift shape
      if place.2 then
        let retries ← Work.lift j.retries.toText
        Work.write fun d => d.warn j.node.id
          ("room '" ++ roomId ++ "' overlaps after " ++ retries ++ " retries")
      let room : Room α := {
        id := roomId, type := p.type, bounds := place.1
        metadata := roomMetadata f.vars shape doors place.2, source := some j.node.id }
      Work.tryWrite fun d => d.addTagged room p.tags a.anchor.isNone : Work σ α Unit) := by
    refine .look (.ask (j.fails_draw (Placement.plain_placeBounds ..)) (.draw _) fun place _ => ?_)
    refine .ask (j.fails_lift plain) (.lift _) fun name _ => .ite ?_ (added _ _ _)
    refine .ask (j.fails_lift (plain_writing _ _)) (.lift _) fun _ _ => ?_
    exact .bind (.write _) (.warn _ _) fun _ _ _ => added _ _ _
  dsimp only
  split
  next id attached =>
    have there : id ∈ d.ids := by
      have first := anchored.first
      rw [attached] at first
      exact anchored.inside (List.mem_of_head? first.symm)
    exact .ask (.boundsOf there) (.boundsOf id) fun ref _ => placed ref
  next => exact .ask (.pure _) (.known _) fun ref _ => placed ref

theorem fails_connectRoom (roomId : String) (bounds : Rect α) {others : List String}
    (inside : others ⊆ d.ids) :
    Fails d (j.Fair incoming) (connectRoom roomId bounds others : Work σ α Unit) := by
  induction others generalizing d with
  | nil => exact .pure _
  | cons other rest ih =>
    obtain ⟨first, later⟩ := List.cons_subset.1 inside
    refine .ask (.boundsOf first) (.boundsOf other) fun otherBounds _ => ?_
    refine .ask (j.fails_draw (Placement.plain_facingDoors _ _)) (.draw _) fun doors _ => ?_
    refine .bind (.write _) (.connect _) fun _ k _ => ih ?_
    rw [Draft.ids_gain]
    exact List.subset_append_of_subset_left _ later

/-- A room is placed and then connected from rooms that were there before it, and after that comes the
rest of the work. -/
theorem fails_placedRoom {plan : RoomPlan α} (plans : j.node.plan? = some plan) {p : CheckedPlan α}
    (kept : p.Keeps plan) (rooted : d.Rooted) (roomId : String) (f : Fragment α) {a : Attachment α}
    {anchors : List String} (anchored : d.Anchored a.anchor anchors) {rest : Work σ α β}
    (next : ∀ k, k.Builds (CountRange.Draws σ) j.node plan [roomId] → (d.gain k).Rooted →
      Fails (d.gain k) (j.Fair incoming) rest) :
    Fails d (j.Fair incoming) (do j.buildRoom roomId p f a; connectRooms anchors roomId; rest) := by
  have connected : Fails d (j.Fair incoming) (do
      j.buildRoom roomId p f a; connectRooms anchors roomId : Work σ α Unit) := by
    refine (j.fails_buildRoom plans kept roomId f anchored).bind (j.adds_buildRoom roomId p f a) ?_
    intro _ k ⟨_, _, _, _, _, _, _, _, _, _, new, same⟩
    have ids : (d.gain k).ids = d.ids ++ [roomId] := by rw [Draft.ids_gain, same]; rfl
    have there : roomId ∈ (d.gain k).ids := by simp [ids]
    obtain ⟨_, inside, _⟩ := rooted.parents anchored new (k := k) (by rw [same])
    have inside : parents (d.gain k) anchors roomId ⊆ (d.gain k).ids :=
      ids ▸ List.subset_append_of_subset_left _ inside
    exact .look (.ask (.boundsOf there) (.boundsOf roomId) fun _ _ => j.fails_connectRoom _ _ inside)
  have placed : Adds d (do j.buildRoom roomId p f a; connectRooms anchors roomId : Work σ α Unit)
      fun _ k => k.Builds (CountRange.Draws σ) j.node plan [roomId] ∧ (d.gain k).Rooted := by
    have done : Adds d (do
        j.buildRoom roomId p f a; connectRooms anchors roomId; pure () : Work σ α Unit) fun _ k =>
          k.Builds (CountRange.Draws σ) j.node plan [roomId] ∧ (d.gain k).Rooted :=
      j.adds_placedRoom kept rooted anchored fun k builds still =>
        .pure ⟨by simpa using builds, by simpa using still⟩
    simpa using done
  have both := connected.bind placed fun _ k ⟨builds, still⟩ => next k builds still
  simpa using both

theorem fails_laterRooms (data : RoomChainData α) (kind : j.node.data = .roomChain data)
    {p : CheckedPlan α} (kept : p.Keeps data.plan) (f : Fragment α) (ids : List String)
    {placed : List String} {last : String} (rooted : d.Rooted) (inside : placed ⊆ d.ids)
    (latest : last ∈ placed) :
    Fails d (j.Fair incoming) (j.laterRooms data p f placed last ids : Work σ α String) := by
  have plans : j.node.plan? = some data.plan := by rw [Node.plan?, kind]
  induction ids generalizing d placed last with
  | nil => exact .pure _
  | cons id rest ih =>
    have attached : Fails d (j.Fair incoming) (nextAttachment (data.style.getD .linear) f.direction
        placed last : Work σ α (String × Attachment α)) := by
      cases data.style.getD .linear with
      | linear => exact .pure _
      | branching =>
        exact .ask (j.fails_draw (Draw.plain_choose _)) (.draw _) fun _ _ =>
          .ask (j.fails_draw (Draw.plain_choose _)) (.draw _) fun _ _ => .pure _
    refine .ask attached (asks_nextAttachment _ _ latest) fun (anchor, a) ⟨member, first⟩ => ?_
    have anchored : d.Anchored a.anchor [anchor] := first ▸ Draft.anchored_room (inside member)
    refine j.fails_placedRoom plans kept rooted id f anchored fun k builds still => ?_
    refine ih still ?_ (by simp)
    rw [Draft.ids_gain, builds.rooms]
    exact List.append_subset.2 ⟨fun x h => List.mem_append_left _ (inside h), by simp⟩

omit [Source σ α] in
theorem fails_continueFrom (f : Fragment α) {roomId : String} (there : roomId ∈ d.ids) :
    Fails d (j.Fair incoming) (continueFrom f roomId : Work σ α (Fragment α)) :=
  .ask (.boundsOf there) (.boundsOf roomId) fun _ _ => .pure _

theorem fails_room (data : RoomData α) (kind : j.node.data = .room data) (rooted : d.Rooted)
    (arrived : ∀ f ∈ incoming, f.RootedIn d) :
    Fails d (j.Fair incoming) (j.room data incoming : Work σ α (Outcome α)) := by
  have plans : j.node.plan? = some data.plan := by rw [Node.plan?, kind]
  refine .ask (j.fails_checkedPlan _) (j.asks_checkedPlan _) fun p kept => ?_
  refine .ask j.fails_single (j.asks_single _) fun f merged => ?_
  refine j.fails_placedRoom plans kept rooted j.node.id f ?_ fun k builds still => ?_
  · exact Fragment.rootedIn_merge merged arrived
  have room : j.node.id ∈ (d.gain k).ids := by simp [builds.rooms]
  exact .ask (j.fails_continueFrom f room) (asks_continueFrom f _) fun _ _ => .pure _

theorem fails_roomChain (data : RoomChainData α) (kind : j.node.data = .roomChain data)
    (rooted : d.Rooted) (arrived : ∀ f ∈ incoming, f.RootedIn d) :
    Fails d (j.Fair incoming) (j.roomChain data incoming : Work σ α (Outcome α)) := by
  have plans : j.node.plan? = some data.plan := by rw [Node.plan?, kind]
  refine .ask (j.fails_checkedPlan _) (j.asks_checkedPlan _) fun p kept => ?_
  refine .ask j.fails_single (j.asks_single _) fun f merged => ?_
  refine .ask (j.fails_count _ (by decide)) (j.asks_count _ _) fun n _ => ?_
  split
  · exact .pure _
  next first rest ids =>
    refine j.fails_placedRoom plans kept rooted first f ?_ fun k builds still => ?_
    · exact Fragment.rootedIn_merge merged arrived
    have room : [first] ⊆ (d.gain k).ids := by simp [builds.rooms]
    refine .bind (j.fails_laterRooms data kind kept f rest still room (by simp))
      (j.adds_laterRooms data kept f rest still room (by simp)) fun last l ⟨_, _, placed⟩ => ?_
    exact .ask (j.fails_continueFrom f placed) (asks_continueFrom f _) fun _ _ => .pure _

/-- On a rooted draft and with rooted fragments, work fails over no room that is not there. -/
theorem fails_perform (rooted : d.Rooted) (arrived : ∀ f ∈ incoming, f.RootedIn d) :
    Fails d (j.Fair incoming) (j.perform incoming : Work σ α (Outcome α)) := by
  have attaches {data : NodeData α} (kind : j.node.data = data) (attached : data.kind.attaches = true) :
      j.node.kind.attaches = true := by
    rw [Node.kind, kind]
    exact attached
  unfold perform
  cases kind : j.node.data with
  | start data => exact j.fails_start data
  | output data => exact j.fails_output data (attaches kind rfl) arrived
  | room data => exact j.fails_room data kind rooted arrived
  | roomChain data => exact j.fails_roomChain data kind rooted arrived
  | branch data => exact j.fails_branch data
  | merge => exact j.fails_merge
  | spawnPoint data => exact j.fails_spawnPoint data (attaches kind rfl) arrived
  | lootDrop data => exact j.fails_lootDrop data (attaches kind rfl) arrived
  | encounter data => exact j.fails_encounter data (attaches kind rfl) arrived
  | prop data => exact j.fails_prop data (attaches kind rfl) arrived
  | randomSelect data => exact j.fails_randomSelect data
  | sequence => exact j.fails_merge
  | condition data => exact j.fails_condition data kind
  | distribution data => exact j.fails_distribution data

/-- A node fails when it is to attach to a room and no anchor came to it. -/
theorem perform_unattached (unattached : j.node.Unattached incoming)
    (arrived : ∀ f ∈ incoming, f.RootedIn d) (s : σ) :
    j.perform incoming ⟨d, s⟩ = .error (.node j.node.id j.node.kind.unattached) ⟨d, s⟩ := by
  obtain ⟨attaches, f, merged, bare⟩ := unattached
  have unanchored : f.anchor = none := by
    rw [(Fragment.rootedIn_merge merged arrived).first, bare]
    rfl
  have some_arrived : incoming ≠ [] := by
    rintro rfl
    cases merged
  have single : j.single incoming (⟨d, s⟩ : Site σ α) = .ok f ⟨d, s⟩ := by
    obtain ⟨g, single⟩ := single_ok (j := j) (s := ⟨d, s⟩) some_arrived
    obtain ⟨_, _, ⟨_, merged'⟩, _⟩ := j.asks_single incoming single
    cases merged.symm.trans merged'
    exact single
  have failed {rest : String → Work σ α (Outcome α)} :
      (do rest (← j.anchor (← j.single incoming)) : Work σ α (Outcome α)) ⟨d, s⟩ =
        .error (.node j.node.id j.node.kind.unattached) ⟨d, s⟩ := by
    refine bind_eq_error.2 (.inr ⟨f, _, single, bind_eq_error.2 (.inl ?_)⟩)
    refine bind_eq_error.2 (.inr ⟨d, ⟨d, s⟩, rfl, ?_⟩)
    rw [unanchored]
    rfl
  unfold perform
  unfold Node.kind at attaches
  cases kind : j.node.data with
  | output | spawnPoint | lootDrop | encounter | prop => exact failed
  | _ =>
    rw [kind] at attaches
    cases attaches

end

end Job

end Dungeon
