import Dungeon.Proofs.Work.Adds
import Dungeon.Proofs.Work.Sketch

/-!
# Work side by side

The same node works twice, each time with another number of retries for its rooms. `Work.Parallel`
compares what the two works give and leave behind. As long as both have drawn the same, they go on to
draw the same; the retries make the streams come apart. From then on it has to be seen from what the
works add that they agree.
-/

namespace Dungeon

variable {σ α β γ : Type} [Scalar α]

/-- The same job with another number of retries. -/
def Job.trying (j : Job α) (retries : Value α) : Job α := { j with retries }

omit [Scalar α] in
@[simp] theorem Job.node_trying (j : Job α) (retries : Value α) : (j.trying retries).node = j.node :=
  rfl

namespace Work

/-- Streams that may have come apart. -/
def Astray (_ _ : σ) : Prop := True

/-- When both works succeed on drafts of one sketch with streams related by `R`, they give values
related by `Q` and leave drafts of one sketch with streams related by `R'`. -/
def Parallel (ways : Bool) (R R' : σ → σ → Prop) (w w' : Work σ α β) (Q : β → β → Prop) : Prop :=
  ∀ ⦃d d' : Draft α⦄ ⦃s s' : σ⦄ ⦃v v' : β⦄ ⦃t t' : Site σ α⦄,
    d.sketch ways = d'.sketch ways → R s s' → w ⟨d, s⟩ = .ok v t → w' ⟨d', s'⟩ = .ok v' t' →
      Q v v' ∧ t.draft.sketch ways = t'.draft.sketch ways ∧ R' t.stream t'.stream

namespace Parallel

variable {ways : Bool} {R R' R'' : σ → σ → Prop} {w w' : Work σ α β} {f f' : β → Work σ α γ}
  {P : β → β → Prop} {Q : γ → γ → Prop}

/-- What streams have in common at the end can be forgotten. -/
theorem astray (h : Parallel ways R R' w w' P) : Parallel ways R Astray w w' P := by
  intro d d' s s' v v' t t' same streams left right
  obtain ⟨post, sketch, _⟩ := h same streams left right
  exact ⟨post, sketch, trivial⟩

theorem pure {v v' : β} (h : P v v') :
    Parallel ways R R (pure v : Work σ α β) (pure v') P := by
  intro d d' s s' u u' t t' same streams left right
  obtain ⟨rfl, rfl⟩ := pure_eq_ok.1 left
  obtain ⟨rfl, rfl⟩ := pure_eq_ok.1 right
  exact ⟨h, same, streams⟩

theorem bind (first : Parallel ways R R' w w' P)
    (second : ∀ v v', P v v' → Parallel ways R' R'' (f v) (f' v') Q) :
    Parallel ways R R'' (w >>= f) (w' >>= f') Q := by
  intro d d' s s' u u' t t' same streams left right
  obtain ⟨v, ⟨_, _⟩, left, left_rest⟩ := bind_eq_ok.1 left
  obtain ⟨v', ⟨_, _⟩, right, right_rest⟩ := bind_eq_ok.1 right
  obtain ⟨post, same, streams⟩ := first same streams left right
  exact second v v' post same streams left_rest right_rest

/-- A step that gives the same on both sides. -/
theorem step (first : Parallel ways R R' w w' Eq)
    (second : ∀ v, Parallel ways R' R'' (f v) (f' v) Q) :
    Parallel ways R R'' (w >>= f) (w' >>= f') Q := by
  refine first.bind fun v v' same => ?_
  subst same
  exact second v

theorem ite {c : Prop} [Decidable c] {x x' y y' : Work σ α β}
    (yes : c → Parallel ways R R' x x' P) (no : ¬ c → Parallel ways R R' y y' P) :
    Parallel ways R R' (if c then x else y) (if c then x' else y') P := by
  split
  next h => exact yes h
  next h => exact no h

theorem lifts {x x' : Except Fault β} (h : ∀ v v', x = .ok v → x' = .ok v' → P v v') :
    Parallel ways R R (lift x : Work σ α β) (lift x') P := by
  intro d d' s s' v v' t t' same streams left right
  obtain ⟨given, rfl⟩ := lift_eq_ok.1 left
  obtain ⟨given', rfl⟩ := lift_eq_ok.1 right
  exact ⟨h v v' given given', same, streams⟩

theorem lift (x : Except Fault β) :
    Parallel ways R R (lift x : Work σ α β) (Work.lift x) Eq :=
  .lifts fun _ _ given given' => Except.ok.inj (given.symm.trans given')

theorem draw (x : Draw σ β) :
    Parallel ways Eq Eq (draw x : Work σ α β) (Work.draw x) Eq := by
  intro d d' s s' v v' t t' same streams left right
  subst streams
  obtain ⟨_, drawn, rfl⟩ := draw_eq_ok.1 left
  obtain ⟨_, drawn', rfl⟩ := draw_eq_ok.1 right
  rw [drawn] at drawn'
  cases drawn'
  exact ⟨rfl, same, rfl⟩

/-- There is nothing to compare when one side fails. -/
theorem throw (e : Fault) (w' : Work σ α β) : Parallel ways R R' (throw e) w' P := by
  intro d d' s s' v v' t t' same streams left right
  cases left

theorem fail (j : Job α) (reason : String) (w' : Work σ α β) :
    Parallel ways R R' (j.fail reason) w' P :=
  throw _ w'

theorem fail_bind (j : Job α) (reason : String) (w' : Work σ α γ) :
    Parallel ways R R' (j.fail reason >>= f) w' Q := by
  intro d d' s s' v v' t t' same streams left right
  obtain ⟨_, _, failed, _⟩ := bind_eq_ok.1 left
  cases failed

theorem failOver (j : Job α) (vs : List (Value α)) (reason : String) (w' : Work σ α β) :
    Parallel ways R R' (j.failOver vs reason) w' P :=
  throw _ w'

theorem failOver_bind (j : Job α) (vs : List (Value α)) (reason : String) (w' : Work σ α γ) :
    Parallel ways R R' (j.failOver vs reason >>= f) w' Q := by
  intro d d' s s' v v' t t' same streams left right
  obtain ⟨_, _, failed, _⟩ := bind_eq_ok.1 left
  cases failed

theorem failWith (j : Job α) (problems : List String) :
    Parallel ways R R (j.failWith problems : Work σ α Unit) (j.failWith problems) Eq :=
  .ite (fun _ => .pure rfl) fun _ => .fail j _ _

theorem blame (j : Job α) (h : Parallel ways R R' w w' P) :
    Parallel ways R R' (j.blame w) (j.blame w') P := by
  intro d d' s s' v v' t t' same streams left right
  exact h same streams (Job.blame_eq_ok.1 left) (Job.blame_eq_ok.1 right)

/-- Works that look at nothing of the draft but its rooms and so do the same. -/
theorem look {f f' : Draft α → Work σ α β} (h : ∀ d d', d.sketch ways = d'.sketch ways →
    Parallel ways R R' (f d) (f' d') P) :
    Parallel ways R R' (Work.draft >>= f) (Work.draft >>= f') P := by
  intro d d' s s' v v' t t' same streams left right
  obtain ⟨_, _, looked, left⟩ := bind_eq_ok.1 left
  obtain ⟨_, _, looked', right⟩ := bind_eq_ok.1 right
  cases looked
  cases looked'
  exact h d d' same same streams left right

/-- It is enough that what the two works add has one sketch, however far the streams come apart. -/
theorem of_adds {K K' : Draft α → β → Contribution α → Prop} (left : ∀ d, Adds d w (K d))
    (right : ∀ d, Adds d w' (K' d))
    (related : ∀ d d' v v' k k', d.sketch ways = d'.sketch ways → K d v k → K' d' v' k' →
      P v v' ∧ k.sketch ways = k'.sketch ways) :
    Parallel ways R Astray w w' P := by
  intro d d' s s' v v' t t' same streams done done'
  obtain ⟨k, gained, added, _⟩ := left d done
  obtain ⟨k', gained', added', _⟩ := right d' done'
  obtain ⟨post, sketch⟩ := related d d' v v' k k' same added added'
  refine ⟨post, ?_, trivial⟩
  rw [gained, gained']
  exact Draft.sketch_gain_congr same sketch

end Parallel

end Work

namespace Job

open Work

variable {ways : Bool} {R : σ → σ → Prop} (j : Job α)

theorem parallel_single {incoming incoming' : List (Fragment α)}
    (same : incoming.map Fragment.unplaced = incoming'.map Fragment.unplaced) :
    Parallel ways R R (j.single incoming : Work σ α (Fragment α)) (j.single incoming')
      fun f f' => ∃ cursor, f' = { f with cursor } := by
  have empty : incoming.isEmpty = incoming'.isEmpty := by
    rw [← List.isEmpty_map (f := Fragment.unplaced), same, List.isEmpty_map]
  unfold single
  rw [empty]
  refine .ite (fun _ => .fail j _ _) fun _ => .lifts fun f f' left right => ?_
  exact ⟨_, Fragment.eq_of_unplaced (Fragment.unplaced_of_merge same left right)⟩

/-- What arrived is one fragment on both sides, and only its place differs. -/
theorem parallel_merged {R' : σ → σ → Prop} {incoming incoming' : List (Fragment α)}
    (same : incoming.map Fragment.unplaced = incoming'.map Fragment.unplaced)
    {rest rest' : Fragment α → Work σ α β} {Q : β → β → Prop}
    (next : ∀ f cursor, Parallel ways R R' (rest f) (rest' { f with cursor }) Q) :
    Parallel ways R R' (j.single incoming >>= rest) (j.single incoming' >>= rest') Q := by
  refine .bind (j.parallel_single same) ?_
  rintro f _ ⟨cursor, rfl⟩
  exact next f cursor

theorem parallel_anchor (f : Fragment α) :
    Parallel ways R R (j.anchor f : Work σ α String) (j.anchor f) Eq := by
  refine .look fun d d' same => ?_
  rw [Draft.hasRoom_of_sketch same]
  split
  · exact .pure rfl
  · exact .fail j _ _

theorem parallel_pathWeights (weights : Value α) :
    Parallel ways R R (j.pathWeights weights : Work σ α (List α)) (j.pathWeights weights) Eq :=
  .step (.lift _) fun _ => .ite (fun _ => .fail_bind j _ _) fun _ => .blame j (.lift _)

theorem parallel_checkedPlan (plan : RoomPlan α) :
    Parallel ways R R (j.checkedPlan plan : Work σ α (CheckedPlan α)) (j.checkedPlan plan) Eq :=
  .step (.lift _) fun _ => .step (.lift _) fun _ => .step (.lift _) fun _ =>
    .step (.lift _) fun _ => .step (.failWith j _) fun _ => .pure rfl

variable [Source σ α]

theorem parallel_count (s : Setting CountRange α) (name : String) :
    Parallel ways Eq Eq (j.count s name : Work σ α Nat) (j.count s name) Eq :=
  .step (.lift _) fun _ => .step (.lift _) fun _ => .step (.failWith j _) fun _ =>
    .step (.draw _) fun _ => .pure rfl

end Job

end Dungeon
