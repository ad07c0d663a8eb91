import Dungeon.Placement
import Dungeon.Proofs.Work.Survival
import Mathlib.Logic.Relation

/-!
# Draws on one stream

Draws move a stream forward and nothing else does. `Advances` says so of draws and of work that draws from
the stream of its site; it is put together along their steps.
-/

namespace Dungeon

open Relation (ReflTransGen)

variable {σ τ α β γ ε : Type}

/-- One number is drawn from the stream. -/
inductive Source.Next [Source σ α] : σ → σ → Prop
  | unit (s : σ) : Next s (Source.unit s).2
  | upTo (n : Nat) (s : σ) : Next s (Source.upTo n s).2

/-- The stream is left like this when some numbers have been drawn from it. -/
def Source.Later [Source σ α] : σ → σ → Prop := ReflTransGen Next

section
variable [Source σ α]

/-- Whenever the work succeeds, it has drawn from its stream and nothing else has changed there. -/
def Advances (stream : τ → σ) (w : EStateM ε τ β) : Prop :=
  ∀ ⦃s v t⦄, w s = .ok v t → Source.Later (stream s) (stream t)

namespace Advances

variable {stream : τ → σ} {w : EStateM ε τ β} {f : β → EStateM ε τ γ}

theorem pure (v : β) : Advances stream (pure v : EStateM ε τ β) := by
  intro s u t done
  obtain ⟨_, rfl⟩ := pure_eq_ok.1 done
  exact .refl

theorem throw (e : ε) : Advances stream (throw e : EStateM ε τ β) := by
  intro s v t done
  cases done

theorem bind (first : Advances stream w) (second : ∀ v, Advances stream (f v)) :
    Advances stream (w >>= f) := by
  intro s u t done
  obtain ⟨v, s', given, rest⟩ := bind_eq_ok.1 done
  exact ReflTransGen.trans (first given) (second v rest)

theorem ite {c : Prop} [Decidable c] {x y : EStateM ε τ β} (yes : Advances stream x)
    (no : Advances stream y) : Advances stream (if c then x else y) := by
  split
  · exact yes
  · exact no

end Advances

namespace Draw

theorem advances_lift (x : Except Fault β) : Advances id (lift x : Draw σ β) := by
  cases x with
  | ok v => exact .pure v
  | error e => exact .throw e

theorem advances_integer (a b : Int) : Advances id (integer a b : Draw σ Int) := by
  have last : Advances id (fun s => .ok (a + (Source.upTo (b - a).toNat s).1)
      (Source.upTo (b - a).toNat s).2 : Draw σ Int) := by
    rintro s _ _ ⟨⟩
    exact .single (.upTo _ s)
  refine .ite (.bind (.throw _) fun _ => ?_) ?_ <;> refine .ite (.bind (.throw _) fun _ => ?_) ?_ <;>
    exact .ite (.bind (.throw _) fun _ => last) last

theorem advances_choose (xs : List β) : Advances id (choose xs : Draw σ β) := by
  refine .ite (.throw _) ((advances_integer 0 _).bind fun i => ?_)
  split
  · exact .pure _
  · exact .throw _

variable [Scalar α]

theorem advances_between (a b : α) : Advances id (between a b : Draw σ α) := by
  have unit : Advances id (unit : Draw σ α) := by
    rintro s _ _ ⟨⟩
    exact .single (.unit s)
  exact .ite (.bind (.throw _) fun _ => unit.bind fun _ => .pure _) (unit.bind fun _ => .pure _)

end Draw

namespace Placement

open Draw

variable [Scalar α] (ref : Rect α) (direction : Direction) (lateral width height : α)
  (placed : List (Rect α))

theorem advances_candidate :
    Advances id (candidate ref direction lateral width height : Draw σ (Rect α)) :=
  (advances_between _ _).bind fun _ => (advances_between _ _).bind fun _ => .pure _

theorem advances_replace (bounds : Rect α) (retries : Nat) :
    Advances id (replace ref direction lateral width height placed bounds retries :
      Draw σ (Rect α × Bool)) := by
  induction retries generalizing bounds with
  | zero => exact .pure _
  | succ retries ih => exact .ite ((advances_candidate ..).bind fun next => ih next) (.pure _)

theorem advances_placeBounds (retries : Value α) :
    Advances id (placeBounds ref direction lateral width height placed retries :
      Draw σ (Rect α × Bool)) :=
  (advances_candidate ..).bind fun _ => (advances_lift _).bind fun _ => advances_replace ..

theorem advances_facingDoors (a b : Rect α) :
    Advances id (facingDoors a b : Draw σ (Point α × Point α)) :=
  (advances_between _ _).bind fun _ => (advances_between _ _).bind fun _ => .ite (.pure _) (.pure _)

end Placement

namespace Job

open Work

theorem advances_lift (x : Except Fault β) : Advances Site.stream (lift x : Work σ α β) := by
  cases x with
  | ok v => exact .pure v
  | error e => exact .throw e

theorem advances_draw {d : Draw σ β} (advances : Advances id d) :
    Advances Site.stream (draw d : Work σ α β) := by
  intro s v t done
  obtain ⟨stream, drawn, rfl⟩ := draw_eq_ok.1 done
  exact advances drawn

theorem advances_draft : Advances Site.stream (draft : Work σ α (Draft α)) := by
  rintro s _ _ ⟨⟩
  exact .refl

theorem advances_boundsOf (id : String) : Advances Site.stream (boundsOf id : Work σ α (Rect α)) :=
  advances_draft.bind fun d => advances_lift (d.boundsOf id)

theorem advances_write (f : Draft α → Draft α) : Advances Site.stream (write f : Work σ α Unit) := by
  rintro s _ _ ⟨⟩
  exact .refl

theorem advances_tryWrite (f : Draft α → Except Fault (Draft α)) :
    Advances Site.stream (tryWrite f : Work σ α Unit) := by
  intro s v t done
  unfold tryWrite at done
  split at done
  · cases done
    exact .refl
  · cases done

variable (j : Job α)

theorem advances_failWith (problems : List String) :
    Advances Site.stream (j.failWith problems : Work σ α Unit) := .ite (.pure ()) (.throw _)

theorem advances_count (range : Setting CountRange α) (name : String) :
    Advances Site.stream (j.count range name : Work σ α Nat) :=
  (advances_lift _).bind fun _ => (advances_lift _).bind fun _ => (j.advances_failWith _).bind fun _ =>
    (advances_draw (Draw.advances_integer _ _)).bind fun _ => .pure _

theorem advances_chooseShape (shapes : Setting (List RoomShape) α) :
    Advances Site.stream (chooseShape shapes : Work σ α (Except Fault String)) := by
  cases shapes with
  | proper shapes => exact (advances_draw (Draw.advances_choose shapes)).bind fun _ => .pure _
  | foreign v =>
    refine (advances_lift _).bind fun n => (advances_draw (Draw.advances_integer _ _)).bind fun i => ?_
    split
    · exact .throw _
    · exact .pure _

variable [Scalar α]

theorem advances_checkedPlan (plan : RoomPlan α) :
    Advances Site.stream (j.checkedPlan plan : Work σ α (CheckedPlan α)) :=
  (advances_lift _).bind fun _ => (advances_lift _).bind fun _ => (advances_lift _).bind fun _ =>
    (advances_lift _).bind fun _ => (j.advances_failWith _).bind fun _ => .pure _

theorem advances_single (incoming : List (Fragment α)) :
    Advances Site.stream (j.single incoming : Work σ α (Fragment α)) :=
  .ite (.throw _) (advances_lift _)

theorem advances_continueFrom (f : Fragment α) (roomId : String) :
    Advances Site.stream (continueFrom f roomId : Work σ α (Fragment α)) :=
  (advances_boundsOf roomId).bind fun _ => .pure _

theorem advances_nextAttachment (style : ConnectionStyle) (forward : Direction) (placed : List String)
    (last : String) : Advances Site.stream
      (nextAttachment style forward placed last : Work σ α (String × Attachment α)) := by
  cases style with
  | linear => exact .pure _
  | branching =>
    exact (advances_draw (Draw.advances_choose _)).bind fun _ =>
      (advances_draw (Draw.advances_choose _)).bind fun _ => .pure _

theorem advances_buildRoom (roomId : String) (p : CheckedPlan α) (f : Fragment α) (a : Attachment α) :
    Advances Site.stream (j.buildRoom roomId p f a : Work σ α Unit) := by
  refine (advances_draw (Draw.advances_between _ _)).bind fun width => ?_
  refine (advances_draw (Draw.advances_between _ _)).bind fun height => ?_
  refine (advances_chooseShape p.shapes).bind fun shape => ?_
  refine (advances_draw (Draw.advances_integer _ _)).bind fun doors => ?_
  dsimp only
  split
  on_goal 1 => refine (advances_boundsOf _).bind fun ref => ?_
  on_goal 2 => refine (Advances.pure _).bind fun ref => ?_
  all_goals
    refine advances_draft.bind fun d => ?_
    refine (advances_draw (Placement.advances_placeBounds ..)).bind fun tried => ?_
    refine (advances_lift shape).bind fun name => ?_
    refine .ite ((advances_lift _).bind fun _ => ?_) (advances_tryWrite _)
    exact (advances_write _).bind fun _ => advances_tryWrite _

theorem advances_connectRooms (anchors : List String) (roomId : String) :
    Advances Site.stream (connectRooms anchors roomId : Work σ α Unit) := by
  have each (bounds : Rect α) (others : List String) :
      Advances Site.stream (connectRoom roomId bounds others : Work σ α Unit) := by
    induction others with
    | nil => exact .pure ()
    | cons other rest ih =>
      exact (advances_boundsOf other).bind fun _ =>
        (advances_draw (Placement.advances_facingDoors _ _)).bind fun _ =>
          (advances_write _).bind fun _ => ih
  exact advances_draft.bind fun _ => (advances_boundsOf roomId).bind fun _ => each _ _

end Job

end

end Dungeon
