import Dungeon.Proofs.Batch.Running
import Dungeon.Proofs.Run.Completion
import Mathlib.Data.List.Induction

/-!
# What cancelling reaches

A runner serves calls one after the other. Cancelling it holds until a batch has started and ended,
in whatever way it ended. A batch that is refused is none: the runner stays cancelled, and a later
batch is cancelled in its place.
-/

namespace Dungeon.Runner

variable {σ τ α : Type} [Scalar α] [Source σ α]

/-- What a runner is asked for: to cancel, or to run a batch that somebody watches. -/
inductive Call (τ α : Type)
  | cancel
  | run (g : Generator τ α) (c : BatchConfig α) (watch : BatchProgress α → Bool)

/-- The call is a batch that starts. -/
def Call.Starts : Call τ α → Prop
  | .cancel => False
  | .run g c _ => Runner.Starts g c

/-- The runner after a call, whether the call came to something or failed. -/
def serve (s : Supply σ τ α) (settings : Settings α) (r : Runner τ) : Call τ α → Runner τ
  | .cancel => r.cancel
  | .run g c watch => afterwards (run g s c settings watch r)

/-- A new runner after some calls. -/
def served (s : Supply σ τ α) (settings : Settings α) (checks : τ) (calls : List (Call τ α)) :
    Runner τ :=
  calls.foldl (serve s settings) { checks }

/-- There was a call to cancel, and no batch has started since. -/
def Pending (calls : List (Call τ α)) : Prop :=
  ∃ before after, calls = before ++ .cancel :: after ∧ ∀ call ∈ after, ¬ call.Starts

section

variable (s : Supply σ τ α) (settings : Settings α)

/-- One call leaves the runner cancelled if it cancels, or if it starts nothing. -/
theorem cancelled_serve (r : Runner τ) (call : Call τ α) :
    (serve s settings r call).cancelled = true ↔
      call = .cancel ∨ ¬ call.Starts ∧ r.cancelled = true := by
  cases call with
  | cancel => exact ⟨fun _ => .inl rfl, fun _ => rfl⟩
  | run g c watch =>
    by_cases starts : Runner.Starts g c
    · have ended := cancelled_afterwards_run g s c settings watch starts r
      simp [serve, ended, Call.Starts, starts]
    · obtain ⟨f, failed⟩ := run_refused g s c settings watch starts
      simp [serve, failed, afterwards, Call.Starts, starts]

omit [Scalar α] in
theorem pending_snoc (calls : List (Call τ α)) (call : Call τ α) :
    Pending (calls ++ [call]) ↔ call = .cancel ∨ ¬ call.Starts ∧ Pending calls := by
  constructor
  · rintro ⟨before, after, split, quiet⟩
    obtain rfl | ⟨rest, last, rfl⟩ := List.eq_nil_or_concat' after
    · exact .inl (List.singleton_inj.1 (List.append_inj' split rfl).2)
    · have ends : calls ++ [call] = (before ++ .cancel :: rest) ++ [last] := by
        rw [split, List.append_assoc, List.cons_append]
      obtain ⟨rfl, same⟩ := List.append_inj' ends rfl
      cases same
      refine .inr ⟨quiet call (by simp), before, rest, rfl, fun other mem => ?_⟩
      exact quiet other (List.mem_append_left _ mem)
  · rintro (rfl | ⟨still, before, after, rfl, quiet⟩)
    · exact ⟨calls, [], rfl, by simp⟩
    · refine ⟨before, after ++ [call], by simp, ?_⟩
      intro other mem
      obtain mem | mem := List.mem_append.1 mem
      · exact quiet other mem
      · rwa [List.mem_singleton.1 mem]

/-- A runner is cancelled after some calls iff cancelling is pending. -/
theorem cancelled_served (checks : τ) (calls : List (Call τ α)) :
    (served s settings checks calls).cancelled = true ↔ Pending calls := by
  -- the last call decides, so calls are added at the end
  induction calls using List.reverseRecOn with
  | nil =>
    constructor
    · intro cancelled
      cases cancelled
    · rintro ⟨before, after, split, _⟩
      simp at split
  | append_singleton calls call ih =>
    have last : served s settings checks (calls ++ [call]) =
        serve s settings (served s settings checks calls) call := by
      simp [served]
    rw [last, cancelled_serve, ih, pending_snoc]

variable (g : Generator τ α) (c : BatchConfig α) (watch : BatchProgress α → Bool)

/-- Of the runner, a batch sees the state of its checks and whether it is cancelled. -/
theorem answer_run_congr {r r' : Runner τ} (checks : r'.checks = r.checks)
    (cancelled : r'.cancelled = r.cancelled) :
    answer (run g s c settings watch r') = answer (run g s c settings watch r) := by
  by_cases starts : Runner.Starts g c
  · obtain ⟨⟨found, valid⟩, seeds, listed⟩ := starts
    have ready : r'.start seeds.length = r.start seeds.length := by
      simp only [start, checks, cancelled]
    rw [run_started g s c settings watch valid listed, run_started g s c settings watch valid listed,
      generations, generations, ready]
  · obtain ⟨f, failed⟩ := run_refused g s c settings watch starts
    rw [failed, failed]
    rfl

variable {g s c settings watch} {r : Runner τ} {outcome : BatchOutcome α}
  {reports : List (BatchProgress α)}

/-- A cancelled runner cancels a batch that has seeds. -/
theorem outcome_of_cancelled (stopped : r.cancelled = true) (seeded : c.seedList ≠ .ok [])
    (done : answer (run g s c settings watch r) = .ok (outcome, reports)) :
    ∃ p, outcome = .cancelled p := by
  obtain ⟨seeds, b, r', listed, made, concluded⟩ := run_returned done
  have unready : (r.start seeds.length).cancelled = true := stopped
  rw [runSeeds_of_cancelled g s _ c watch seeds {} unready] at made
  cases made
  refine (conclude_returned concluded).2.2 (List.length_pos_of_ne_nil fun empty => ?_)
  rw [empty] at listed
  exact seeded listed

/-- A batch is cancelled by its runner or by its watcher. -/
theorem cancelled_of_outcome
    (done : answer (run g s c settings watch r) = .ok (outcome, reports))
    (cancelled : ∃ p, outcome = .cancelled p) :
    r.cancelled = true ∨ ∃ p ∈ reports, watch p = true := by
  obtain ⟨seeds, b, r', listed, made, concluded⟩ := run_returned done
  obtain ⟨rfl, missing⟩ := conclude_returned concluded
  have fewer := missing.1 cancelled
  have stopped : r'.cancelled = true := by
    refine (runSeeds_generations g s _ c watch made).2 ?_
    simpa using fewer
  by_cases before : r.cancelled = true
  · exact .inl before
  · have ready : ¬ (r.start seeds.length).cancelled = true := before
    exact .inr (runSeeds_heard g s _ c watch (fun now => absurd now ready) made stopped)

end

/-- What calls to cancel reach. After any calls a new runner is cancelled iff one of them cancels and
no batch has started since; a batch that starts leaves it uncancelled, also when it fails. What the
next batch comes to depends on the earlier calls by this and by the state of the checks alone: if
cancelling is pending and there are seeds, it is cancelled, and else only its watcher cancels it. -/
theorem served_scoped (s : Supply σ τ α) (settings : Settings α) (checks : τ)
    (calls : List (Call τ α)) :
    ((served s settings checks calls).cancelled = true ↔ Pending calls) ∧
      ∀ g c watch,
        (Starts g c → (served s settings checks (calls ++ [.run g c watch])).cancelled = false) ∧
        (∀ r : Runner τ, r.checks = (served s settings checks calls).checks →
          (r.cancelled = true ↔ Pending calls) →
          answer (run g s c settings watch r) =
            answer (run g s c settings watch (served s settings checks calls))) ∧
        ∀ outcome reports,
          answer (run g s c settings watch (served s settings checks calls)) =
            .ok (outcome, reports) →
          (Pending calls → c.seedList ≠ .ok [] → ∃ p, outcome = .cancelled p) ∧
          ((∃ p, outcome = .cancelled p) → Pending calls ∨ ∃ p ∈ reports, watch p = true) := by
  have flag := cancelled_served s settings checks calls
  refine ⟨flag, fun g c watch => ⟨fun starts => ?_, fun r same pending => ?_, ?_⟩⟩
  · rw [← Bool.not_eq_true, cancelled_served, pending_snoc]
    rintro (cancel | ⟨idle, _⟩)
    · cases cancel
    · exact idle starts
  · exact answer_run_congr s settings g c watch same (Bool.eq_iff_iff.2 (pending.trans flag.symm))
  · intro outcome reports done
    refine ⟨fun pending seeded => outcome_of_cancelled (flag.2 pending) seeded done, ?_⟩
    exact fun cancelled => (cancelled_of_outcome done cancelled).imp_left flag.1

namespace Interrupted

/-- The gate, unconstrained. -/
def generator : Generator Unit Float := { graph := Run.Gate.graph }

def supply : Supply Random.Stream Unit Float :=
  { stream := nodeStream, registry := fun _ => none }

def pair : BatchConfig Float := { runs := .int 2 }

/-- A number of runs that is not whole. -/
def halved : BatchConfig Float := { runs := .num (.real 2.5) }

/-- Cancelling, and then a batch that nobody watches. -/
def calls (g : Generator Unit Float) (c : BatchConfig Float) : List (Call Unit Float) :=
  [.cancel, .run g c fun _ => false]

end Interrupted

open Interrupted in
/-- A batch whose number of runs is not whole, and a batch of a graph without nodes, fail and leave
the runner cancelled; the batch after them is cancelled. A new runner finishes it. -/
theorem served_refused :
    (served supply {} () (calls generator halved)).cancelled = true ∧
      (served supply {} () (calls { graph := { nodes := [], edges := [] } } pair)).cancelled =
        true ∧
      answer (run generator supply pair {} (fun _ => false)
        (served supply {} () (calls generator halved))) = .ok (.cancelled (.ofCounts 0 2), []) ∧
      ∃ results reports, answer (run generator supply pair {} (fun _ => false) { checks := () }) =
        .ok (.finished results, reports) :=
  ⟨rfl, rfl, rfl, _, _, rfl⟩

end Dungeon.Runner
