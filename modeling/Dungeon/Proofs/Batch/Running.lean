import Dungeon.Batch.Runner
import Dungeon.Proofs.Run.Plan
import Dungeon.Proofs.Steady

/-!
# How batches go

A batch of an invalid graph, or of seeds that cannot be listed, is refused and changes nothing. Any
other batch is started: its generations are made one after the other until the runner is cancelled,
and however that ends, the runner is not cancelled afterwards.
-/

namespace Dungeon

namespace Runner

variable {σ τ α : Type} [Scalar α] [Source σ α]

section seeds

variable (g : Generator τ α) (s : Supply σ τ α) (plan : Plan α) (c : BatchConfig α)
  (watch : BatchProgress α → Bool)

/-- The runner is asked before each generation whether it is cancelled. -/
theorem runSeeds_cons_eq (seed : Value α) (rest : List (Value α)) (b : Batch α) (r : Runner τ) :
    runSeeds g s plan c watch (seed :: rest) b r =
      (if r.cancelled then pure b else do
        let made ← checking (g.generate s (.ok plan) c.parameters seed)
        modify fun r : Runner τ => r.count c.interval watch
        runSeeds g s plan c watch rest (note b (← get) c.interval made)) r := by
  rw [runSeeds]
  rfl

theorem runSeeds_of_cancelled (seeds : List (Value α)) (b : Batch α) {r : Runner τ}
    (stopped : r.cancelled = true) : runSeeds g s plan c watch seeds b r = .ok b r := by
  cases seeds with
  | nil => rfl
  | cons seed rest =>
    rw [runSeeds_cons_eq, if_pos stopped]
    rfl

theorem runSeeds_cons (seed : Value α) (rest : List (Value α)) (b : Batch α) {r : Runner τ}
    (going : r.cancelled = false) :
    runSeeds g s plan c watch (seed :: rest) b r =
      match g.generate s (.ok plan) c.parameters seed r.checks with
      | .ok made checks =>
        let r' := count { r with checks } c.interval watch
        runSeeds g s plan c watch rest (note b r' c.interval made) r'
      | .error f checks => .error f { r with checks } := by
  have going : ¬ r.cancelled = true := by simp [going]
  rw [runSeeds_cons_eq, if_neg going]
  simp only [bind, EStateM.bind, checking]
  cases g.generate s (.ok plan) c.parameters seed r.checks <;> rfl

/-- A runner that is cancelled after counting was cancelled before, or else by the watcher. -/
theorem cancelled_count {r : Runner τ} {interval : Value α}
    (stopped : (r.count interval watch).cancelled = true) :
    r.cancelled = true ∨
      (r.count interval watch).due interval = true ∧ watch (r.count interval watch).progress = true := by
  unfold count at stopped ⊢
  dsimp only at stopped ⊢
  split at stopped
  next heard =>
    rw [if_pos heard]
    exact .inr (Bool.and_eq_true_iff.1 heard)
  next => exact .inl stopped

/-- If the watcher was heard to cancel whenever the runner is cancelled, then so it is when the
generations are made. -/
theorem runSeeds_heard {seeds : List (Value α)} {b b' : Batch α} {r r' : Runner τ}
    (heard : r.cancelled = true → ∃ p ∈ b.reports, watch p = true)
    (done : runSeeds g s plan c watch seeds b r = .ok b' r') (stopped : r'.cancelled = true) :
    ∃ p ∈ b'.reports, watch p = true := by
  induction seeds generalizing b r with
  | nil =>
    cases done
    exact heard stopped
  | cons seed rest ih =>
    by_cases before : r.cancelled = true
    · rw [runSeeds_of_cancelled g s plan c watch _ b before] at done
      cases done
      exact heard stopped
    rw [runSeeds_cons g s plan c watch seed rest b (Bool.not_eq_true _ ▸ before)] at done
    split at done
    next made checks _ =>
      refine ih (fun now => ?_) done
      obtain earlier | ⟨due, cancels⟩ := cancelled_count watch now
      · exact absurd earlier before
      · refine ⟨_, ?_, cancels⟩
        simp only [note, due, if_true, List.mem_append, List.mem_singleton, or_true]
    next => cases done

/-- One generation after the other is made for the seeds, for all of them unless the runner is
cancelled. -/
theorem runSeeds_generations {seeds : List (Value α)} {b b' : Batch α} {r r' : Runner τ}
    (done : runSeeds g s plan c watch seeds b r = .ok b' r') :
    b'.generations.length ≤ b.generations.length + seeds.length ∧
      (b'.generations.length < b.generations.length + seeds.length → r'.cancelled = true) := by
  induction seeds generalizing b r with
  | nil =>
    cases done
    exact ⟨le_rfl, fun fewer => absurd fewer (lt_irrefl _)⟩
  | cons seed rest ih =>
    by_cases before : r.cancelled = true
    · rw [runSeeds_of_cancelled g s plan c watch _ b before] at done
      cases done
      exact ⟨Nat.le_add_right _ _, fun _ => before⟩
    rw [runSeeds_cons g s plan c watch seed rest b (Bool.not_eq_true _ ▸ before)] at done
    split at done
    next made checks _ =>
      have rest := ih done
      simp only [note, List.length_append, List.length_singleton] at rest
      rw [List.length_cons]
      exact ⟨by omega, fun fewer => rest.2 (by omega)⟩
    next => cases done

/-- A batch that starts makes its generations, unless the number of workers is bad. -/
theorem runAll_cases (workers : Value α) (seeds : List (Value α)) (r : Runner τ) :
    runAll g s plan c workers watch seeds r = runSeeds g s plan c watch seeds {} r ∨
      seeds ≠ [] ∧ ∃ f, BatchConfig.workerCount workers seeds.length = .error f ∧
        runAll g s plan c workers watch seeds r = .error f r := by
  unfold runAll
  cases seeds with
  | nil => exact .inl rfl
  | cons seed rest =>
    cases hired : BatchConfig.workerCount workers (seed :: rest).length with
    | ok n =>
      refine .inl ?_
      simp only [List.isEmpty_cons, Bool.not_false, if_true]
    | error f =>
      refine .inr ⟨List.cons_ne_nil _ _, f, rfl, ?_⟩
      simp only [List.isEmpty_cons, Bool.not_false, if_true]
      rfl

end seeds

section run

variable (g : Generator τ α) (s : Supply σ τ α) (c : BatchConfig α) (settings : Settings α)
  (watch : BatchProgress α → Bool)

/-- What a batch of a number of seeds comes to when no more generations are made. -/
def conclude (total : Nat) (b : Batch α) (r : Runner τ) :
    Except Fault (BatchOutcome α × List (BatchProgress α)) :=
  if b.generations.length < total then .ok (.cancelled r.progress, b.reports)
  else
    (Summary.ofFrame s.frame b.generations (g.constraints.map Constraint.id) c.buckets).map
      fun summary => (.finished {
        config := c, runs := b.generations.length, summary
        warnings := Summary.warnings b.generations }, b.reports)

/-- The generations of a batch that is started. -/
def generations (seeds : List (Value α)) : EStateM Fault (Runner τ) (Batch α) := fun r =>
  runAll g s ⟨g.graph, settings.placementRetries⟩ c
    (if c.workers.truthy then c.workers else settings.workers) watch seeds (r.start seeds.length)

/-- The batch is one of a valid graph, and its seeds can be listed. -/
structure Starts (g : Generator τ α) (c : BatchConfig α) : Prop where
  graph : ∃ found, g.graph.ensureValid = .ok found
  seeds : ∃ seeds, c.seedList = .ok seeds

theorem run_started {found : Graph.Report} (valid : g.graph.ensureValid = .ok found)
    {seeds : List (Value α)} (listed : c.seedList = .ok seeds) (r : Runner τ) :
    run g s c settings watch r =
      match generations g s c settings watch seeds r with
      | .ok b r' => leaving r'.clear (conclude g s c seeds.length b r')
      | .error f r' => .error f r'.clear := by
  unfold run generations
  rw [Graph.Sound.plan_of_ensureValid _ valid, listed]
  dsimp only [bind, EStateM.bind, pure, EStateM.pure, modify, modifyGet,
    MonadStateOf.modifyGet, EStateM.modifyGet, clearing]
  cases runAll g s _ c _ watch seeds (r.start seeds.length) with
  | error f r' => rfl
  | ok b r' =>
    dsimp only
    unfold conclude
    by_cases fewer : b.generations.length < seeds.length
    · rw [if_pos fewer, if_pos fewer]
      rfl
    · rw [if_neg fewer, if_neg fewer]
      cases Summary.ofFrame s.frame b.generations (g.constraints.map Constraint.id) c.buckets <;> rfl

/-- A batch that does not start changes nothing. -/
theorem run_refused (refused : ¬ Starts g c) :
    ∃ f, ∀ r : Runner τ, run g s c settings watch r = .error f r := by
  unfold run
  cases valid : g.graph.ensureValid with
  | error f =>
    rw [Plan.ofValid, valid]
    exact ⟨f, fun r => rfl⟩
  | ok found =>
    rw [Graph.Sound.plan_of_ensureValid _ valid]
    cases listed : c.seedList with
    | error f => exact ⟨f, fun r => rfl⟩
    | ok seeds => exact absurd ⟨⟨found, valid⟩, seeds, listed⟩ refused

/-- Cancelling ends with the batch, whether it comes to something or fails. -/
theorem cancelled_afterwards_run (starts : Starts g c) (r : Runner τ) :
    (afterwards (run g s c settings watch r)).cancelled = false := by
  obtain ⟨⟨found, valid⟩, seeds, listed⟩ := starts
  rw [run_started g s c settings watch valid listed]
  cases generations g s c settings watch seeds r with
  | ok b r' =>
    dsimp only
    rw [afterwards_leaving]
    rfl
  | error f r' => rfl

variable {g s c settings watch} {r : Runner τ} {outcome : BatchOutcome α}
  {reports : List (BatchProgress α)}

/-- A batch that comes to something has made generations for its seeds. -/
theorem run_returned (done : answer (run g s c settings watch r) = .ok (outcome, reports)) :
    ∃ seeds b r', c.seedList = .ok seeds ∧
      runSeeds g s ⟨g.graph, settings.placementRetries⟩ c watch seeds {} (r.start seeds.length) =
        .ok b r' ∧
      conclude g s c seeds.length b r' = .ok (outcome, reports) := by
  by_cases starts : Starts g c
  · obtain ⟨⟨found, valid⟩, seeds, listed⟩ := starts
    rw [run_started g s c settings watch valid listed] at done
    refine ⟨seeds, ?_⟩
    cases made : generations g s c settings watch seeds r with
    | error f r' =>
      rw [made] at done
      cases done
    | ok b r' =>
      rw [made] at done
      dsimp only at done
      rw [answer_leaving] at done
      unfold generations at made
      obtain same | ⟨_, f, _, failed⟩ := runAll_cases g s ⟨g.graph, settings.placementRetries⟩ c watch
        (if c.workers.truthy then c.workers else settings.workers) seeds (r.start seeds.length)
      · exact ⟨b, r', listed, same ▸ made, done⟩
      · cases failed.symm.trans made
  · obtain ⟨f, failed⟩ := run_refused g s c settings watch starts
    rw [failed] at done
    cases done

omit [Source σ α] in
/-- A batch is cancelled iff generations are missing. -/
theorem conclude_returned {total : Nat} {b : Batch α}
    (done : conclude g s c total b r = .ok (outcome, reports)) :
    reports = b.reports ∧ ((∃ p, outcome = .cancelled p) ↔ b.generations.length < total) := by
  unfold conclude at done
  by_cases fewer : b.generations.length < total
  · rw [if_pos fewer] at done
    cases done
    exact ⟨rfl, fun _ => fewer, fun _ => ⟨_, rfl⟩⟩
  · rw [if_neg fewer] at done
    cases summed : Summary.ofFrame s.frame b.generations (g.constraints.map Constraint.id)
      c.buckets with
    | error f =>
      rw [summed] at done
      cases done
    | ok summary =>
      rw [summed] at done
      cases done
      refine ⟨rfl, ?_, fun missing => absurd missing fewer⟩
      rintro ⟨p, cancelled⟩
      cases cancelled

end run

end Runner

end Dungeon
