import Dungeon.Proofs.Generation
import Dungeon.Proofs.Graph.Grouping
import Dungeon.Proofs.Work.Survival

/-!
# What a generation reports

A generation ends in one of two ways. Either there is a layout, and its constraints are checked one
after the other: the failed ones are the errors and the last of the warnings. Or something was wrong
with the parameters, the graph or a node: then nothing is reported but that, and it is never nothing.
No constraint is asked before the layout is there, so the constraints do not change it.
-/

namespace Dungeon

variable {σ τ α : Type}

/-- A fault that does not make a failed generation, or says what is wrong with it. -/
def Fault.Telling (f : Fault) : Prop := f.errors? ≠ some []

theorem Fault.telling_of_kind {f : Fault} (kind : f.kind ≠ .invalidGraph) : f.Telling := by
  unfold Telling errors?
  split
  · exact absurd rfl kind
  · split
    · exact fun none_told => List.cons_ne_nil _ _ (Option.some.inj none_told)
    · exact fun told => nomatch told

/-- An accepted graph has no errors and a refused one has some. -/
theorem Graph.telling_ensureValid (g : Graph α) : FailsOnly Fault.Telling g.ensureValid := by
  have warned : FailsOnly Fault.Telling g.warnings := by
    refine FailsOnly.bind ?_ fun groups _ => .ok _
    refine .mapM fun group _ => (failsOnly_groupWarning g group).mono fun f kind => ?_
    exact Fault.telling_of_kind (by rw [kind]; exact fun same => nomatch same)
  refine FailsOnly.bind (warned.bind fun found _ => .ok _) fun r _ => ?_
  by_cases valid : r.valid = true
  · rw [if_pos valid]
    exact .ok r
  · rw [if_neg valid]
    refine .error fun none_told => valid ?_
    have no_lines : r.errors.map Violation.message = [] := Option.some.inj none_told
    rw [Report.valid, List.map_eq_nil_iff.1 no_lines]
    rfl

theorem Plan.telling_checkEdges (g : Graph α) (es : List (Edge α)) :
    FailsOnly Fault.Telling (checkEdges g es) := by
  have node (id : String) : FailsOnly Fault.Telling (checkNode g id) :=
    .ite (.ok ()) (.error (Fault.telling_of_kind fun same => nomatch same))
  induction es with
  | nil => exact .ok ()
  | cons e rest ih => exact (node _).bind fun _ _ => (node _).bind fun _ _ => ih

theorem Plan.telling_ofValid (g : Graph α) (retries : Value α) :
    FailsOnly Fault.Telling (ofValid g retries) :=
  g.telling_ensureValid.bind fun _ _ => (telling_checkEdges g g.edges).bind fun _ _ => .ok _

section

variable [Scalar α]

theorem Value.telling_toWhole (v : Value α) : FailsOnly Fault.Telling v.toWhole := by
  intro f failed
  refine Fault.telling_of_kind fun invalid => ?_
  unfold toWhole at failed
  split at failed
  · cases failed
  · cases failed
  next x =>
    cases truncated : Scalar.truncate x with
    | ok n => simp [truncated, Except.mapError] at failed
    | error n =>
      rw [truncated] at failed
      cases failed
      cases n <;> cases invalid
  next s =>
    cases read : Decimal.readInt s with
    | ok n => simp [read, Except.mapError] at failed
    | error n =>
      rw [read] at failed
      cases failed
      cases n <;> cases invalid
  · cases failed
    cases invalid

theorem Value.failsOnly_checkOrder (vs : List (Value α)) :
    FailsOnly (fun f => f.kind = .type) (checkOrder vs) := by
  induction vs using checkOrder.induct with
  | case1 a b rest ih => exact (failsOnly_compare .lt b a).bind fun _ _ => ih
  | case2 vs short =>
    unfold checkOrder
    split
    · exact absurd rfl (short _ _ _)
    · exact .ok ()

theorem Bindings.telling_resolve (declared : List (Parameter α)) (overrides : Fields α) :
    FailsOnly Fault.Telling (resolve declared overrides) := by
  have telling {f : Fault} (objection : Objection declared overrides f) : f.Telling := by
    refine Fault.telling_of_kind fun invalid => ?_
    rcases objection with kind | ⟨kind, _⟩ | ⟨rfl, _⟩
    · exact nomatch invalid.symm.trans kind
    · exact nomatch invalid.symm.trans kind
    · cases invalid
  have unordered {f : Fault} (kind : f.kind = .type) : f.Telling :=
    Fault.telling_of_kind fun invalid => nomatch invalid.symm.trans kind
  have sizes {b : Bindings α} {f : Fault} (h : f.kind = .parameter ∨ f.Unsaid (b.map Prod.snd)) :
      f.Telling := by
    refine Fault.telling_of_kind fun invalid => ?_
    rcases h with kind | ⟨rfl, _⟩
    · exact nomatch invalid.symm.trans kind
    · cases invalid
  refine ((failsOnly_defaults declared overrides).mono fun f => telling).bind fun b _ => ?_
  refine ((failsOnly_override declared b overrides).mono fun f => telling).bind fun b' _ => ?_
  refine (b'.failsOnly_checkSizes.mono fun f => sizes).bind fun _ _ => ?_
  exact ((Value.failsOnly_checkOrder _).mono fun f => unordered).bind fun _ _ => .ok b'

end

namespace Run

variable [Scalar α] [Source σ α]

theorem telling_perform (input : Input σ α) (r : Run α) (n : Node α) :
    FailsOnly Fault.Telling (perform input r n) := by
  intro f failed
  refine Fault.telling_of_kind fun invalid => ?_
  unfold perform at failed
  dsimp only at failed
  split at failed
  · cases failed
    cases invalid
  · split at failed
    · cases failed
    next f' _ _ =>
      cases failed
      rcases failure_cases n.id f' with kind | ⟨_, same⟩
      · exact nomatch invalid.symm.trans kind
      · rw [same] at invalid
        cases invalid

omit [Scalar α] in
theorem telling_settle (p : Plan α) (d : Delivery α) (r : Run α) :
    FailsOnly Fault.Telling (r.settle p d) := by
  have arrived (r : Run α) (e : Edge α) (f : Fragment α) :
      FailsOnly Fault.Telling (r.arrive p e f) := by
    unfold arrive
    split
    · exact .ok _
    · exact .error (Fault.telling_of_kind fun invalid => nomatch invalid)
  unfold settle
  dsimp only
  refine .ite (.ok _) ?_
  split
  · exact .ok _
  · exact (arrived _ _ _).bind fun r _ => .ite (.ok _) (.ok _)

omit [Scalar α] in
theorem telling_settleEach (p : Plan α) {cascade : List (Delivery α) → Run α → Except Fault (Run α)}
    (nested : ∀ ds r, FailsOnly Fault.Telling (cascade ds r)) (ds : List (Delivery α)) (r : Run α) :
    FailsOnly Fault.Telling (settleEach p cascade ds r) := by
  induction ds generalizing r with
  | nil => exact .ok r
  | cons d rest ih =>
    refine (telling_settle p d r).bind fun next _ => .ite ?_ (ih _)
    exact (nested _ _).bind fun _ _ => ih _

omit [Scalar α] in
theorem telling_settleAll (p : Plan α) (nesting : Nat) (ds : List (Delivery α)) (r : Run α) :
    FailsOnly Fault.Telling (settleAll p nesting ds r) := by
  induction nesting generalizing ds r with
  | zero =>
    have deep : Fault.tooDeep.Telling := Fault.telling_of_kind fun invalid => nomatch invalid
    exact telling_settleEach p (fun _ _ => .error deep) ds r
  | succ nesting ih => exact telling_settleEach p ih ds r

theorem telling_execute (input : Input σ α) : FailsOnly Fault.Telling (execute input) := by
  have loops (limit : Nat) (r : Run α) : FailsOnly Fault.Telling (loop input limit r) := by
    induction limit generalizing r with
    | zero => exact .ok r
    | succ limit ih =>
      unfold loop
      split
      · exact .ok r
      next id _ =>
        refine FailsOnly.bind ?_ fun next _ => ih next
        unfold advance
        split
        · exact .ok r
        · exact (telling_perform input _ _).bind fun _ _ => telling_settleAll _ _ _ _
  exact (loops _ _).bind fun r _ => .ok r.toReport

end Run

namespace Constraint

variable [Scalar α]

/-- The result is one that the evaluation of the constraint gives. -/
def Gives (registry : Registry τ α) (l : Layout α) (c : Constraint τ α) (r : CheckResult α) : Prop :=
  r.constraintId = c.id ∧ r.severity = c.severity ∧ ∃ t t', evaluate registry l c t = .ok r t'

theorem gives_of_evaluate {registry : Registry τ α} {l : Layout α} {c : Constraint τ α}
    {r : CheckResult α} {t t' : τ} (done : evaluate registry l c t = .ok r t') :
    c.Gives registry l r := by
  refine ⟨?_, ?_, t, t', done⟩ <;>
  · unfold evaluate at done
    dsimp only at done
    split at done
    · cases done
      rfl
    · split at done
      · cases done
        rfl
      · cases done

/-- The results of constraints come in their order. -/
theorem gives_of_evaluateAll {registry : Registry τ α} {cs : List (Constraint τ α)} {l : Layout α}
    {t t' : τ} {checks : List (CheckResult α)} (done : evaluateAll registry cs l t = .ok checks t') :
    List.Forall₂ (Gives registry l) cs checks := by
  unfold evaluateAll at done
  induction cs generalizing t checks with
  | nil =>
    cases done
    exact .nil
  | cons c rest ih =>
    rw [List.mapM_cons] at done
    obtain ⟨r, u, first, done⟩ := bind_eq_ok.1 done
    obtain ⟨rs, u', others, done⟩ := bind_eq_ok.1 done
    obtain ⟨rfl, rfl⟩ := pure_eq_ok.1 done
    exact .cons (gives_of_evaluate first) (ih others)

end Constraint

namespace Generation

variable [Scalar α]

/-- The failed checks of a severity, in order and each after the id of its constraint. -/
def told (checks : List (CheckResult α)) (s : Severity) : List String :=
  (checks.filter fun r => !r.passed && r.severity == s).map fun r =>
    r.constraintId ++ ": " ++ r.message.plain

/-- There is a layout, and every constraint has been checked on it. -/
structure Judged (r : Generation α) (registry : Constraint.Registry τ α)
    (constraints : List (Constraint τ α)) (report : RunReport α) : Prop where
  layout : r.layout = some report.layout
  data : r.data = report.data
  checks : List.Forall₂ (Constraint.Gives registry report.layout) constraints r.checks
  errors : r.errors = told r.checks .error
  warnings : r.warnings = report.warnings ++ told r.checks .warning

omit [Scalar α] in
/-- There is no layout, and nothing but the reasons for that is reported. -/
structure Refused (r : Generation α) (f : Fault) : Prop where
  layout : r.layout = none
  failed : r.success = false
  reasons : f.errors? = some r.errors
  some_reason : r.errors ≠ []
  checks : r.checks = []
  warnings : r.warnings = []

end Generation

namespace Generator

variable [Scalar α] [Source σ α]

/-- Laying out fails with a reason, or with a fault that is not the generation's own. -/
theorem telling_layOut (g : Generator τ α) (s : Supply σ τ α) {plan : Except Fault (Plan α)}
    (planned : FailsOnly Fault.Telling plan) (overrides : Fields α) (seed : Value α) :
    FailsOnly Fault.Telling (g.layOut s plan overrides seed) := by
  refine (Bindings.telling_resolve g.parameters overrides).bind fun parameters _ => ?_
  refine planned.bind fun plan _ => FailsOnly.bind ?_ fun root _ => Run.telling_execute _
  exact .ite (.ok 0) seed.telling_toWhole

/-- A generation comes back in one of the two ways. -/
theorem generate_cases {g : Generator τ α} {s : Supply σ τ α} {plan : Except Fault (Plan α)}
    {overrides : Fields α} {seed : Value α} {t t' : τ} {r : Generation α}
    (done : g.generate s plan overrides seed t = .ok r t') :
    (∃ report checks, g.layOut s plan overrides seed = .ok report ∧
      Constraint.evaluateAll s.registry g.constraints report.layout t = .ok checks t' ∧
      r = .ofChecks seed report checks) ∨
    ∃ f errors, g.layOut s plan overrides seed = .error f ∧ f.errors? = some errors ∧
      r = { seed, success := false, errors } := by
  unfold generate at done
  cases laid : g.layOut s plan overrides seed with
  | ok report =>
    rw [laid] at done
    obtain ⟨checks, u, evaluated, done⟩ := bind_eq_ok.1 done
    cases lines : Generation.listed checks (Generation.ofChecks seed report checks) with
    | error f =>
      rw [lines] at done
      cases done
    | ok made =>
      rw [lines] at done
      obtain ⟨rfl, rfl⟩ := pure_eq_ok.1 done
      exact .inl ⟨report, checks, rfl, evaluated, (writing_eq_ok.1 lines).2.symm⟩
  | error f =>
    rw [laid] at done
    cases told : f.errors? with
    | some errors =>
      simp only [told] at done
      obtain ⟨rfl, rfl⟩ := pure_eq_ok.1 done
      exact .inr ⟨f, errors, rfl, told, rfl⟩
    | none =>
      simp only [told] at done
      cases done

/-- What comes back does not depend on the constraints, but for the checks. -/
theorem generate_unaffected {g g' : Generator τ α} {s s' : Supply σ τ α}
    {plan : Except Fault (Plan α)} {overrides : Fields α} {seed : Value α} {t u t' u' : τ}
    {r r' : Generation α} (same : g.layOut s plan overrides seed = g'.layOut s' plan overrides seed)
    (done : g.generate s plan overrides seed t = .ok r t')
    (done' : g'.generate s' plan overrides seed u = .ok r' u') :
    r'.layout = r.layout ∧ r'.data = r.data := by
  rcases generate_cases done with ⟨report, checks, laid, _, rfl⟩ | ⟨f, errors, laid, _, rfl⟩ <;>
  rcases generate_cases done' with ⟨report', checks', laid', _, rfl⟩ | ⟨f', errors', laid', _, rfl⟩
  · cases laid.symm.trans (same.trans laid')
    exact ⟨rfl, rfl⟩
  · cases laid.symm.trans (same.trans laid')
  · cases laid.symm.trans (same.trans laid')
  · exact ⟨rfl, rfl⟩

/-- Whenever a generation comes back, it carries its seed, and it succeeds iff there are no errors.
Either it has a layout with one check of each constraint in order, and its errors and the last of its
warnings are the failed checks; or it has failed with reasons and reports nothing else. With other
constraints the layout, the data and whether there is a layout are the same. -/
theorem generate_reports (g : Generator τ α) (s : Supply σ τ α) (executor : Option (Plan α))
    (retries : Value α) (overrides : Fields α) (seed : Value α) {t t' : τ} {r : Generation α}
    (done : g.generate s (executor.elim (Plan.ofValid g.graph retries) .ok) overrides seed t =
      .ok r t') :
    r.seed = seed ∧ (r.success = true ↔ r.errors = []) ∧
      ((∃ report, g.layOut s (executor.elim (Plan.ofValid g.graph retries) .ok) overrides seed =
          .ok report ∧ r.Judged s.registry g.constraints report) ∨
        ∃ f, g.layOut s (executor.elim (Plan.ofValid g.graph retries) .ok) overrides seed =
          .error f ∧ r.Refused f) ∧
      ∀ (constraints : List (Constraint τ α)) (registry : Constraint.Registry τ α) (u u' : τ)
        (r' : Generation α),
        ({ g with constraints } : Generator τ α).generate { s with registry }
          (executor.elim (Plan.ofValid g.graph retries) .ok) overrides seed u = .ok r' u' →
        r'.layout = r.layout ∧ r'.data = r.data := by
  have planned : FailsOnly Fault.Telling (executor.elim (Plan.ofValid g.graph retries) .ok) := by
    cases executor with
    | none => exact Plan.telling_ofValid g.graph retries
    | some plan => exact .ok plan
  have unaffected (constraints : List (Constraint τ α)) (registry : Constraint.Registry τ α)
      (u u' : τ) (r' : Generation α)
      (done' : ({ g with constraints } : Generator τ α).generate { s with registry }
        (executor.elim (Plan.ofValid g.graph retries) .ok) overrides seed u = .ok r' u') :
      r'.layout = r.layout ∧ r'.data = r.data := by
    have same : g.layOut s (executor.elim (Plan.ofValid g.graph retries) .ok) overrides seed =
        ({ g with constraints } : Generator τ α).layOut { s with registry }
          (executor.elim (Plan.ofValid g.graph retries) .ok) overrides seed := rfl
    exact generate_unaffected same done done'
  rcases generate_cases done with ⟨report, checks, laid, evaluated, made⟩ |
    ⟨f, errors, laid, told, made⟩
  · subst made
    refine ⟨rfl, List.isEmpty_iff, .inl ⟨report, laid, ?_⟩, unaffected⟩
    exact ⟨rfl, rfl, Constraint.gives_of_evaluateAll evaluated, rfl, rfl⟩
  · subst made
    have some_reason : errors ≠ [] := by
      rintro rfl
      exact g.telling_layOut s planned overrides seed f laid told
    refine ⟨rfl, iff_of_false Bool.false_ne_true some_reason, .inr ⟨f, laid, ?_⟩, unaffected⟩
    exact ⟨rfl, rfl, told, some_reason, rfl, rfl⟩

namespace Gatehouse

/-- The gate with a constraint that passes and two that ask no predicate. -/
def generator : Generator Unit Float where
  graph := Run.Gate.graph
  constraints := [
    { id := "whole", type := .connected },
    { id := "lit", type := .custom },
    { id := "calm", type := .custom, severity := .warning, errorMessage := .text "too loud" }]

def overrides : Fields Float := [(.text "open", .bool true)]

/-- What one reads off the report of a generation. -/
def read : EStateM.Result Fault Unit (Generation Float) →
    Option (List String × List String × List Bool)
  | .ok r _ => some (r.errors, r.warnings, r.checks.map CheckResult.passed)
  | .error _ _ => none

end Gatehouse

theorem generate_reports_gate :
    ∃ r, Gatehouse.generator.generate Sized.supply (Plan.ofValid Run.Gate.graph (.int 8))
        Gatehouse.overrides (.int 3) () = .ok r () ∧
      r.seed = .int 3 ∧ r.success = false ∧
      r.errors = ["lit: invalid parameters: custom constraint needs a predicate"] ∧
      r.warnings = ["calm: too loud"] ∧ r.checks.map CheckResult.passed = [true, false, false] ∧
      ∃ report, r.Judged Sized.supply.registry Gatehouse.generator.constraints report := by
  have facts : Gatehouse.read (Gatehouse.generator.generate Sized.supply
      (Plan.ofValid Run.Gate.graph (.int 8)) Gatehouse.overrides (.int 3) ()) =
      some (["lit: invalid parameters: custom constraint needs a predicate"], ["calm: too loud"],
        [true, false, false]) := by decide +kernel
  cases done : Gatehouse.generator.generate Sized.supply (Plan.ofValid Run.Gate.graph (.int 8))
      Gatehouse.overrides (.int 3) () with
  | error f t =>
    rw [done] at facts
    cases facts
  | ok r t =>
    rw [done] at facts
    obtain ⟨errors, others⟩ := Prod.mk.inj (Option.some.inj facts)
    obtain ⟨warnings, checks⟩ := Prod.mk.inj others
    obtain ⟨seed, success, ⟨report, _, judged⟩ | ⟨f, _, refused⟩, _⟩ :=
      generate_reports Gatehouse.generator Sized.supply none (.int 8) Gatehouse.overrides (.int 3) done
    · have failed : r.success = false := by
        rw [← Bool.not_eq_true, success, errors]
        exact List.cons_ne_nil _ _
      exact ⟨r, rfl, seed, failed, errors, warnings, checks, report, judged⟩
    · rw [refused.checks] at checks
      cases checks

end Generator

end Dungeon
