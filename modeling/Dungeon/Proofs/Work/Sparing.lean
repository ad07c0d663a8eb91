import Dungeon.Proofs.Graph.Grouping
import Dungeon.Proofs.Work.Survival

/-!
# What does not depend on free room ids

Placing a room is all that can fail because a room id is taken. `Spares` says of other work that it
fails for other reasons only. Its rules follow the steps of the work, down to the conversions and the
draws that the steps are made of. These know of no rooms and no nodes, so their faults are plain; the
rules for steps hold of any sort of faults, which `Errs` names.
-/

namespace Dungeon

variable {σ τ α β γ : Type}

/-- The room id that is taken, if this is the fault. -/
def Fault.taken? : Fault → Option String
  | .roomTaken id => some id
  | _ => none

/-- The fault is another one than that a room id is taken. -/
def Fault.Other (f : Fault) : Prop := f.taken? = none

/-- The fault has nothing to do with rooms or nodes: no room id is taken, no key is missing, and no node
says that it failed. -/
def Fault.Plain (f : Fault) : Prop := (f.taken?.isNone && f.kind != .key && f.kind != .node) = true

namespace Fault.Plain

variable {f : Fault} (plain : f.Plain)
include plain

theorem other : f.Other := by
  simp only [Plain, Bool.and_eq_true, Option.isNone_iff_eq_none] at plain
  exact plain.1.1

theorem kind_ne_key : f.kind ≠ .key := by
  simp only [Plain, Bool.and_eq_true, bne_iff_ne] at plain
  exact plain.1.2

theorem kind_ne_node : f.kind ≠ .node := by
  simp only [Plain, Bool.and_eq_true, bne_iff_ne] at plain
  exact plain.2

end Fault.Plain

/-! Conversions -/

namespace FailsOnly

variable {P : Fault → Prop}

theorem mapError {ε : Type} {g : ε → Fault} (h : ∀ e, P (g e)) (x : Except ε β) :
    FailsOnly P (x.mapError g) := by
  cases x with
  | error e => exact .error (h e)
  | ok v => exact .ok v

theorem anyM {f : β → Except Fault Bool} {xs : List β} (h : ∀ x ∈ xs, FailsOnly P (f x)) :
    FailsOnly P (xs.anyM f) := by
  induction xs with
  | nil => exact .ok false
  | cons x rest ih =>
    rw [List.anyM_cons]
    refine (h x List.mem_cons_self).bind fun b _ => ?_
    cases b with
    | true => exact .ok true
    | false => exact ih fun y hy => h y (List.mem_cons_of_mem x hy)

end FailsOnly

theorem plain_require (s : Setting β α) (member : String) :
    FailsOnly Fault.Plain (s.require member) := by
  cases s with
  | proper x => exact .ok x
  | foreign => exact .error rfl

theorem plain_writing (vs : List (Value α)) (x : β) : FailsOnly Fault.Plain (Value.writing vs x) :=
  .writing fun _ => rfl

theorem plain_told (r : CountRange) (x : β) : FailsOnly Fault.Plain (r.told x) :=
  .ite (plain_writing _ x) (.ok x)

theorem plain_key (v : Value α) : FailsOnly Fault.Plain v.key := by
  unfold Value.key
  split
  · exact .error rfl
  · exact .ok v

theorem plain_parts (v : Value α) : FailsOnly Fault.Plain v.parts := by
  unfold Value.parts
  split
  · exact .ok _
  · exact .error rfl

theorem plain_length (v : Value α) : FailsOnly Fault.Plain v.length := by
  unfold Value.length
  split
  · exact .ok _
  · exact .error rfl

theorem plain_toCount (v : Value α) : FailsOnly Fault.Plain v.toCount := by
  unfold Value.toCount
  split
  · exact .ok _
  · exact .ok _
  · exact .error rfl

theorem other_boundsOf (d : Draft α) (id : String) : FailsOnly Fault.Other (d.boundsOf id) := by
  unfold Draft.boundsOf
  split
  · exact .ok _
  · exact .error rfl

section
variable [Scalar α]

theorem plain_compare (r : Value.Relation) (a b : Value α) :
    FailsOnly Fault.Plain (Value.compare r a b) :=
  FailsOnly.mapError (g := Value.Unordered.fault) (fun _ => rfl) _

theorem plain_sum (xs : List α) :
    FailsOnly Fault.Plain ((Scalar.sum xs).mapError Decimal.NoSum.fault) :=
  .mapError (fun e => by cases e <;> rfl) _

theorem plain_toScalar (n : Number α) : FailsOnly Fault.Plain n.toScalar :=
  (failsOnly_toScalar n).mono fun f ⟨tooLarge, _⟩ => by rw [tooLarge]; rfl

theorem plain_toReal (v : Value α) : FailsOnly Fault.Plain v.toReal := by
  unfold Value.toReal
  split
  · exact .ok _
  · exact plain_toScalar _
  · split
    · exact .ok _
    · exact .error rfl
  · exact .error rfl

theorem plain_between (v w : Value α) (t : α) : FailsOnly Fault.Plain (v.between w t) := by
  have difference : FailsOnly Fault.Plain (w.minus v) := by
    unfold Value.minus
    split
    · split
      · exact .ok _
      · exact .error rfl
    · exact .error rfl
  refine difference.bind fun d _ => (plain_toScalar d).bind fun span _ => ?_
  exact (plain_toReal v).bind fun x _ => .ok _

/-- What weights can fail with when they are scaled. -/
theorem failsOnly_normalised {P : Fault → Prop}
    (compared : ∀ (r : Value.Relation) (a b : Value α), FailsOnly P (Value.compare r a b))
    (read : ∀ v : Value α, FailsOnly P v.toReal)
    (summed : ∀ xs : List α, FailsOnly P ((Scalar.sum xs).mapError Decimal.NoSum.fault))
    (refused : ∀ got, P (.improperWeights got)) (unwritable : P .unwritable) (missing : P .noWeights)
    (zero : P .zeroWeights)
    (weights : List (Value α)) : FailsOnly P (normalised weights) := by
  have checked (w : Value α) : FailsOnly P (improper w) := by
    refine (compared _ _ _).bind fun negative _ => .ite (.ok _) ?_
    exact (read w).bind fun x _ => .ok _
  refine .ite (.error missing) ((FailsOnly.anyM fun w _ => checked w).bind fun bad _ => ?_)
  refine .ite (.error (quoting_of (refused _) unwritable _)) ?_
  refine (FailsOnly.mapM fun w _ => read w).bind fun reals _ => ?_
  exact (summed reals).bind fun total _ => .ite (.error zero) (.ok _)

theorem plain_normalised (weights : List (Value α)) :
    FailsOnly Fault.Plain (normalised weights) :=
  failsOnly_normalised plain_compare plain_toReal plain_sum (fun _ => rfl) rfl rfl rfl weights

theorem plain_sizeRange (b : Bindings α) (r : SizeRange α) :
    FailsOnly Fault.Plain (b.sizeRange r) := by
  unfold Bindings.sizeRange
  extract_lets corner
  have spared (name : String) (own : Size α) : FailsOnly Fault.Plain (corner name own) := by
    unfold corner
    split
    · exact .ok own
    · exact (plain_toReal _).bind fun x _ => .ok _
  exact (spared _ _).bind fun low _ => (spared _ _).bind fun high _ => .ok _

theorem plain_merge (fs : List (Fragment α)) : FailsOnly Fault.Plain (Fragment.merge fs) := by
  unfold Fragment.merge
  split
  · exact .error rfl
  · exact .ok _
  · exact .ok _

/-- An operator that is not known is a missing key, and nothing else is. -/
theorem failsOnly_operator (operator actual given : Value α) :
    FailsOnly (fun f => f.Plain ∨ f = .missingKey operator.quoted ∨
      f = .unwritableKey ∧ operator.writable = false) (Job.holds operator actual given) := by
  refine ((plain_key operator).mono fun _ => .inl).bind fun name kept => ?_
  obtain rfl := Graph.eq_of_key kept
  split
  all_goals first
    | exact .ok _
    | exact (plain_compare _ _ _).mono fun _ => .inl
    | skip
  split
  next => exact .error (.inr (.inl rfl))
  next unwritable => exact .error (.inr (.inr ⟨rfl, by simpa using unwritable⟩))

theorem other_holds (operator actual given : Value α) :
    FailsOnly Fault.Other (Job.holds operator actual given) :=
  (failsOnly_operator operator actual given).mono fun f failed => by
    rcases failed with plain | rfl | ⟨rfl, _⟩
    · exact plain.other
    · rfl
    · rfl

end

/-! Draws -/

theorem bind_eq_error {ε : Type} {x : EStateM ε τ β} {f : β → EStateM ε τ γ} {s t : τ} {e : ε} :
    (x >>= f) s = .error e t ↔
      x s = .error e t ∨ ∃ v s', x s = .ok v s' ∧ f v s' = .error e t := by
  show EStateM.bind x f s = .error e t ↔ _
  unfold EStateM.bind
  cases x s <;> simp

/-- When this fails, the fault is of the sort `P`. -/
def Errs (P : Fault → Prop) (w : EStateM Fault τ β) : Prop := ∀ ⦃s f t⦄, w s = .error f t → P f

namespace Errs

variable {P : Fault → Prop} {w : EStateM Fault τ β} {f : β → EStateM Fault τ γ}

theorem pure (v : β) : Errs P (pure v : EStateM Fault τ β) := by
  intro s f t failed
  cases failed

theorem throw {f : Fault} (h : P f) : Errs P (throw f : EStateM Fault τ β) := by
  intro s f' t failed
  cases failed
  exact h

theorem bind (first : Errs P w) (second : ∀ v, Errs P (f v)) : Errs P (w >>= f) := by
  intro s fault t failed
  rcases bind_eq_error.1 failed with failed | ⟨v, s', _, failed⟩
  · exact first failed
  · exact second v failed

theorem ite {c : Prop} [Decidable c] {x y : EStateM Fault τ β} (yes : Errs P x) (no : Errs P y) :
    Errs P (if c then x else y) := by
  split
  · exact yes
  · exact no

theorem draw_lift {x : Except Fault β} (h : FailsOnly P x) : Errs P (Draw.lift x : Draw σ β) := by
  intro s f t failed
  cases x with
  | ok v => cases failed
  | error e =>
    cases failed
    exact h _ rfl

theorem lift {x : Except Fault β} (h : FailsOnly P x) : Errs P (Work.lift x : Work σ α β) := by
  intro s f t failed
  cases x with
  | ok v => cases failed
  | error e =>
    cases failed
    exact h _ rfl

theorem write (f : Draft α → Draft α) : Errs P (Work.write f : Work σ α Unit) := by
  intro s fault t failed
  cases failed

theorem draw {d : Draw σ β} (h : Errs P d) : Errs P (Work.draw d : Work σ α β) := by
  intro s f t failed
  unfold Work.draw at failed
  cases drawn : d s.stream with
  | ok v stream =>
    rw [drawn] at failed
    cases failed
  | error e stream =>
    rw [drawn] at failed
    cases failed
    exact h drawn

theorem blame (j : Job α) {w : Work σ α β} (h : Errs P w)
    (blamed : ∀ f, P f → f.kind = .value → P (.node j.node.id f.message)) : Errs P (j.blame w) := by
  intro s f t failed
  unfold Job.blame at failed
  cases worked : w s with
  | ok v s' =>
    rw [worked] at failed
    cases failed
  | error e s' =>
    rw [worked] at failed
    have same := (EStateM.Result.error.inj failed).1
    subst same
    split
    next value => exact blamed e (h worked) value
    next => exact h worked

theorem weightedIndex [Scalar α] [Source σ α]
    (summed : ∀ xs : List α, FailsOnly P ((Scalar.sum xs).mapError Decimal.NoSum.fault))
    (empty : P .weightsEmpty) (negative : P .weightsNegative) (zero : P .weightSum)
    (reversed : P .reversedBounds) (weights : List α) :
    Errs P (Draw.weightedIndex weights : Draw σ Nat) := by
  refine .ite (.throw empty) (.ite (.throw negative) (.bind (.draw_lift (summed weights)) ?_))
  refine fun total => .ite (.throw zero) (.bind (.ite (.throw reversed) (.bind ?_ fun _ => .pure _))
    fun key => .pure _)
  intro s f t failed
  cases failed

theorem distribution [Scalar α] [Source σ α] (named : ∀ v : Value α, FailsOnly P v.key)
    (read : ∀ v : Value α, FailsOnly P v.toReal) (unknown : ∀ name, P (.unknownDistribution name))
    (unwritable : P .unwritable) (power : P .powerSign) (rate : P .rateSign) (v e r : Value α) :
    Errs P (Draw.distribution v e r : Draw σ α) := by
  have drawn : Errs P (Draw.unit : Draw σ α) := by
    intro s f t failed
    cases failed
  refine .bind (.draw_lift (named v)) fun name => ?_
  split
  · exact drawn
  · exact .bind drawn fun _ => .bind drawn fun _ => .bind drawn fun _ => .bind drawn fun _ => .pure _
  · exact .bind drawn fun _ => .bind drawn fun _ => .pure _
  · refine .bind (.draw_lift (read e)) fun exponent => ?_
    exact .ite (.throw power) (.bind drawn fun _ => .pure _)
  · refine .bind (.draw_lift (read r)) fun rate' => ?_
    exact .ite (.throw rate) (.bind drawn fun _ => .pure _)
  · exact .throw (quoting_of (unknown _) unwritable _)

end Errs

/-- When this fails, then not because a room id is taken. -/
def Spares (w : EStateM Fault τ β) : Prop := ∀ ⦃s f t⦄, w s = .error f t → f.Other

namespace Spares

variable {w : EStateM Fault τ β} {f : β → EStateM Fault τ γ}

theorem pure (v : β) : Spares (pure v : EStateM Fault τ β) := Errs.pure v

theorem throw {f : Fault} (other : f.Other) : Spares (throw f : EStateM Fault τ β) :=
  Errs.throw other

theorem bind (first : Spares w) (second : ∀ v, Spares (f v)) : Spares (w >>= f) :=
  Errs.bind first second

theorem ite {c : Prop} [Decidable c] {x y : EStateM Fault τ β} (yes : Spares x) (no : Spares y) :
    Spares (if c then x else y) :=
  Errs.ite yes no

end Spares

namespace Draw

variable [Source σ α]

theorem plain_unit : Errs Fault.Plain (unit : Draw σ α) := by
  intro s f t failed
  cases failed

theorem plain_integer (a b : Int) : Errs Fault.Plain (integer a b : Draw σ Int) := by
  have drawn : Errs Fault.Plain (fun s => .ok (a + (Source.upTo (b - a).toNat s).1)
      (Source.upTo (b - a).toNat s).2 : Draw σ Int) := by
    intro s f t failed
    cases failed
  exact .ite (.throw rfl) (.ite (.throw rfl) (.ite (.throw rfl) drawn))

theorem plain_choose (xs : List β) : Errs Fault.Plain (choose xs : Draw σ β) := by
  refine .ite (.throw rfl) (.bind (plain_integer _ _) fun i => ?_)
  split
  · exact .pure _
  · exact .throw rfl

variable [Scalar α]

theorem plain_between (a b : α) : Errs Fault.Plain (between a b : Draw σ α) :=
  .ite (.throw rfl) (.bind plain_unit fun _ => .pure _)

theorem plain_chance (p : Value α) : Errs Fault.Plain (chance p : Draw σ Bool) := by
  refine .bind (.draw_lift (plain_compare _ _ _)) fun least => ?_
  have trial (fits : Bool) : Errs Fault.Plain (do
      if !fits then throw .probability
      let u ← unit
      lift (Value.compare .lt (.real u) p) : Draw σ Bool) :=
    .ite (.throw rfl) (.bind plain_unit fun u => .draw_lift (plain_compare _ _ _))
  exact .ite (.bind (.draw_lift (plain_compare _ _ _)) trial) (.bind (.pure _) trial)

theorem plain_distribution (name exponent rate : Value α) :
    Errs Fault.Plain (distribution name exponent rate : Draw σ α) :=
  Errs.distribution plain_key plain_toReal (fun _ => rfl) rfl rfl rfl name exponent rate

theorem plain_weightedIndex (weights : List α) : Errs Fault.Plain (weightedIndex weights : Draw σ Nat) :=
  Errs.weightedIndex plain_sum rfl rfl rfl rfl weights

end Draw

namespace Placement

variable [Scalar α] [Source σ α]

theorem plain_placeBounds (ref : Rect α) (direction : Direction) (lateral width height : α)
    (placed : List (Rect α)) (retries : Value α) :
    Errs Fault.Plain (placeBounds ref direction lateral width height placed retries :
      Draw σ (Rect α × Bool)) := by
  have tried : Errs Fault.Plain (candidate ref direction lateral width height : Draw σ (Rect α)) :=
    .bind (Draw.plain_between _ _) fun _ => .bind (Draw.plain_between _ _) fun _ => .pure _
  have again (n : Nat) (bounds : Rect α) :
      Errs Fault.Plain (replace ref direction lateral width height placed bounds n :
        Draw σ (Rect α × Bool)) := by
    induction n generalizing bounds with
    | zero => exact .pure _
    | succ n ih => exact .ite (.bind tried fun next => ih next) (.pure _)
  exact .bind tried fun first => .bind (.draw_lift (plain_toCount retries)) fun n => again _ _

theorem plain_facingDoors (a b : Rect α) : Errs Fault.Plain (facingDoors a b : Draw σ (Point α × Point α)) := by
  refine .bind (Draw.plain_between _ _) fun u => .bind (Draw.plain_between _ _) fun v => ?_
  exact .ite (.pure _) (.pure _)

theorem plain_entityPoint (bounds : Rect α) (radius : Option α) :
    Errs Fault.Plain (Job.entityPoint bounds radius : Draw σ (Point α)) := by
  cases radius with
  | none =>
    exact .bind (Draw.plain_between _ _) fun x => .bind (Draw.plain_between _ _) fun y => .pure _
  | some radius =>
    exact .bind (Draw.plain_between _ _) fun x => .bind (Draw.plain_between _ _) fun y => .pure _

end Placement

/-! Steps of the work of nodes -/

namespace Work

theorem spares_lift {x : Except Fault β} (plain : FailsOnly Fault.Plain x) :
    Spares (lift x : Work σ α β) :=
  Errs.lift (plain.mono fun _ => Fault.Plain.other)

theorem spares_draw {d : Draw σ β} (plain : Errs Fault.Plain d) : Spares (draw d : Work σ α β) :=
  Errs.draw fun _ _ _ failed => (plain failed).other

theorem spares_draft : Spares (draft : Work σ α (Draft α)) := by
  intro s f t failed
  cases failed

theorem spares_write (f : Draft α → Draft α) : Spares (write f : Work σ α Unit) := Errs.write f

theorem spares_boundsOf (id : String) : Spares (boundsOf id : Work σ α (Rect α)) :=
  .bind spares_draft fun d => Errs.lift (other_boundsOf d id)

theorem spares_tryWrite {f : Draft α → Except Fault (Draft α)}
    (other : ∀ d, FailsOnly Fault.Other (f d)) : Spares (tryWrite f : Work σ α Unit) := by
  intro s fault t failed
  unfold tryWrite at failed
  cases tried : f s.draft with
  | ok d =>
    rw [tried] at failed
    cases failed
  | error e =>
    rw [tried] at failed
    cases failed
    exact other _ _ tried

theorem spares_addEntity (roomId : String) (e : Entity α) :
    Spares (tryWrite fun d => d.addEntity roomId e : Work σ α Unit) :=
  spares_tryWrite fun _ => .ite (.ok _) (.error rfl)

end Work

namespace Job

open Work

variable (j : Job α)

theorem spares_fail (reason : String) : Spares (j.fail reason : Work σ α β) := .throw rfl

theorem spares_failOver (vs : List (Value α)) (reason : String) :
    Spares (j.failOver vs reason : Work σ α β) :=
  .throw (quoting_of (P := Fault.Other) (f := .node j.node.id reason) rfl rfl vs)

theorem spares_blame {w : Work σ α β} (spares : Spares w) : Spares (j.blame w) :=
  Errs.blame j spares fun _ _ _ => rfl

theorem spares_failWith (problems : List String) : Spares (j.failWith problems : Work σ α Unit) :=
  .ite (.pure _) (j.spares_fail _)

theorem spares_anchor (f : Fragment α) : Spares (j.anchor f : Work σ α String) := by
  refine .bind spares_draft fun d => ?_
  split
  · exact .pure _
  · exact j.spares_fail _

theorem spares_count [Source σ α] (s : Setting CountRange α) (name : String) :
    Spares (j.count s name : Work σ α Nat) := by
  refine .bind (spares_lift (plain_require s _)) fun r => ?_
  refine .bind (spares_lift (plain_told r _)) fun problems => ?_
  refine .bind (j.spares_failWith _) fun _ => ?_
  exact .bind (spares_draw (Draw.plain_integer _ _)) fun n => .pure _

variable [Scalar α]

theorem spares_single (incoming : List (Fragment α)) :
    Spares (j.single incoming : Work σ α (Fragment α)) :=
  .ite (j.spares_fail _) (spares_lift (plain_merge incoming))

theorem spares_checkedPlan (p : RoomPlan α) : Spares (j.checkedPlan p : Work σ α (CheckedPlan α)) := by
  refine .bind (spares_lift (plain_require _ _)) fun own => ?_
  refine .bind (spares_lift (plain_sizeRange _ own)) fun size => ?_
  refine .bind (spares_lift (plain_require _ _)) fun doors => ?_
  refine .bind (spares_lift (plain_told doors _)) fun problems => ?_
  exact .bind (j.spares_failWith _) fun _ => .pure _

theorem spares_pathWeights (weights : Value α) :
    Spares (j.pathWeights weights : Work σ α (List α)) := by
  have scaled : Spares (j.blame (lift (do normalised (← weights.parts))) : Work σ α (List α)) :=
    j.spares_blame (spares_lift ((plain_parts weights).bind fun vs _ => plain_normalised vs))
  exact .bind (spares_lift (plain_length weights)) fun given => .ite (j.spares_fail _) scaled

variable [Source σ α]

theorem spares_place (roomId : String) (type : Value α) (metadata : Metadata α) (radius : Option α)
    (count : Nat) : Spares (j.place roomId type metadata radius count : Work σ α (List (Entity α))) := by
  have placed (bounds : Rect α) (n i : Nat) :
      Spares (j.placeFrom roomId type metadata radius bounds i n : Work σ α (List (Entity α))) := by
    induction n generalizing i with
    | zero => exact .pure _
    | succ n ih =>
      refine .bind (spares_draw (Placement.plain_entityPoint _ _)) fun position => ?_
      refine .bind (spares_lift (plain_writing _ _)) fun id => ?_
      exact .bind (spares_addEntity _ _) fun _ => .bind (ih (i + 1)) fun rest => .pure _
  exact .bind (spares_boundsOf roomId) fun bounds => placed bounds count 0

/-! Nodes that place no rooms -/

theorem spares_start (d : StartData α) : Spares (j.start d : Work σ α (Outcome α)) := by
  have placed (area : SpawnArea) (offset : Point α) :
      Spares (do
        Work.write fun draft => draft.setPlayerStart area offset
        Pure.pure (j.everywhere Fragment.empty) : Work σ α (Outcome α)) :=
    .bind (spares_write _) fun _ => .pure _
  have drawn := Draw.plain_between (σ := σ) (0.2 : α) 0.8
  unfold start
  dsimp only
  split
  · exact .bind (spares_draw drawn) fun x => .bind (spares_draw drawn) fun y =>
      .bind (.pure _) fun _ => placed _ _
  · exact .bind (.pure _) fun _ => placed _ _

omit [Source σ α] in
/-- A node that works in the room that its fragment comes from. -/
theorem spares_anchored {rest : String → Work σ α β} (incoming : List (Fragment α))
    (spares : ∀ roomId, Spares (rest roomId)) :
    Spares (do rest (← j.anchor (← j.single incoming))) :=
  .bind (j.spares_single incoming) fun f => .bind (j.spares_anchor f) spares

omit [Source σ α] in
theorem spares_output (d : OutputData α) (incoming : List (Fragment α)) :
    Spares (j.output d incoming : Work σ α (Outcome α)) :=
  j.spares_anchored incoming fun _ =>
    .bind (spares_boundsOf _) fun _ => .bind (spares_write _) fun _ => .pure _

/-- A number is drawn and as many entities are put into the room. -/
theorem spares_counted (s : Setting CountRange α) (name roomId : String) (type : Value α)
    (metadata : Metadata α) : Spares (do
      let n ← j.count s name
      let _ ← j.place roomId type metadata none n
      return Table.empty : Work σ α (Outcome α)) :=
  .bind (j.spares_count _ _) fun _ => .bind (j.spares_place _ _ _ _ _) fun _ => .pure _

theorem spares_spawnPoint (d : SpawnPointData α) (incoming : List (Fragment α)) :
    Spares (j.spawnPoint d incoming : Work σ α (Outcome α)) := by
  refine j.spares_anchored incoming fun roomId => ?_
  refine .bind (spares_lift (plain_compare _ _ _)) fun negative => .ite (j.spares_fail _) ?_
  refine .bind (j.spares_count _ _) fun n => ?_
  have spawned (es : List (Entity α)) : Spares (do
      for e in es do
        Work.write fun draft => draft.addSpawnPoint ⟨e.id, e.type, e.position, roomId⟩
      return Table.empty : Work σ α (Outcome α)) := by
    refine .bind ?_ fun _ => .pure _
    induction es with
    | nil => exact .pure _
    | cons e rest ih =>
      rw [List.forIn_cons]
      exact .bind (.bind (spares_write _) fun _ => .pure _) fun step => by
        cases step with
        | done => exact .pure _
        | yield => exact ih
  have placed (radius : Option α) := Spares.bind
    (j.spares_place (σ := σ) roomId d.entityType [] radius n) spawned
  refine .ite (.bind (.pure _) placed) (.bind ?_ placed)
  exact .bind (spares_lift (plain_toReal _)) fun _ => .pure _

theorem spares_lootDrop (d : LootDropData α) (incoming : List (Fragment α)) :
    Spares (j.lootDrop d incoming : Work σ α (Outcome α)) := by
  refine j.spares_anchored incoming fun roomId => ?_
  refine .bind (spares_lift (plain_compare _ _ _)) fun least => ?_
  have dropped (fits : Bool) : Spares (do
      if !fits then
        j.failOver [d.dropChance] ("dropChance " ++ d.dropChance.plain ++ " outside [0, 1]")
      if ← Work.draw (Draw.chance d.dropChance) then
        let n ← j.count d.count "itemCount"
        let _ ← j.place roomId (.text "loot") (.ofTexts [("lootTable", d.lootTable)]) none n
      return Table.empty : Work σ α (Outcome α)) := by
    refine .ite (j.spares_failOver _ _) (.bind (spares_draw (Draw.plain_chance _)) fun dropped => ?_)
    exact .ite (j.spares_counted _ _ _ _ _) (.pure _)
  exact .ite (.bind (spares_lift (plain_compare _ _ _)) dropped) (.bind (.pure _) dropped)

theorem spares_encounter (d : EncounterData α) (incoming : List (Fragment α)) :
    Spares (j.encounter d incoming : Work σ α (Outcome α)) := by
  refine j.spares_anchored incoming fun roomId => ?_
  refine .bind (spares_lift (plain_key _)) fun difficulty => ?_
  split
  · exact j.spares_failOver _ _
  · exact j.spares_counted _ _ _ _ _

theorem spares_prop (d : PropData α) (incoming : List (Fragment α)) :
    Spares (j.prop d incoming : Work σ α (Outcome α)) :=
  j.spares_anchored incoming fun _ => j.spares_counted _ _ _ _ _

theorem spares_branch (d : BranchData α) (incoming : List (Fragment α)) :
    Spares (j.branch d incoming : Work σ α (Outcome α)) := by
  refine .bind (j.spares_single _) fun f => .bind (j.spares_pathWeights _) fun weights => ?_
  exact .ite (.bind (spares_draw (Draw.plain_weightedIndex _)) fun i => .pure _) (.pure _)

theorem spares_randomSelect (d : RandomSelectData α) (incoming : List (Fragment α)) :
    Spares (j.randomSelect d incoming : Work σ α (Outcome α)) := by
  refine .bind (j.spares_single _) fun f => .bind (j.spares_pathWeights _) fun weights => ?_
  exact .bind (spares_draw (Draw.plain_weightedIndex _)) fun i => .pure _

omit [Source σ α] in
theorem spares_merge (incoming : List (Fragment α)) :
    Spares (j.merge incoming : Work σ α (Outcome α)) :=
  .bind (j.spares_single _) fun _ => .pure _

omit [Source σ α] in
theorem spares_condition (d : ConditionData α) (incoming : List (Fragment α)) :
    Spares (j.condition d incoming : Work σ α (Outcome α)) := by
  refine .bind (j.spares_single _) fun f => .bind (spares_lift (plain_key _)) fun name => ?_
  split
  · exact j.spares_failOver _ _
  · split
    · exact .pure _
    next failed => exact .ite (j.spares_failOver _ _) (.throw (other_holds _ _ _ _ failed))

theorem spares_distribution (d : DistributionData α) (incoming : List (Fragment α)) :
    Spares (j.distribution d incoming : Work σ α (Outcome α)) := by
  refine .bind (j.spares_single _) fun f => .bind (spares_lift (plain_compare _ _ _)) fun wrong => ?_
  refine .ite (j.spares_failOver _ _) ?_
  refine .bind (j.spares_blame (spares_draw (Draw.plain_distribution _ _ _))) fun unit => ?_
  refine .bind (spares_lift (plain_between _ _ _)) fun x => ?_
  exact .bind (spares_lift (plain_key _)) fun name => .pure _

end Job

end Dungeon
