import Dungeon.Generation
import Dungeon.Proofs.Constraint.Evaluation
import Dungeon.Proofs.Work.Survival

/-!
# Work that does not depend on its state

Work on a state gives or fails with something, and leaves a state. It is steady if what it gives or
fails with is the same in every state. A generation is steady where the checks of its constraints
are, as they are without predicates and with predicates that are steady themselves.
-/

namespace Dungeon

section

variable {ε ρ β γ : Type}

/-- What a computation gives or fails with, whatever state it leaves. -/
def answer : EStateM.Result ε ρ β → Except ε β
  | .ok v _ => .ok v
  | .error f _ => .error f

/-- The state that a computation leaves, whether it gives something or fails. -/
def afterwards : EStateM.Result ε ρ β → ρ
  | .ok _ r => r
  | .error _ r => r

/-- A value or a fault together with a state. -/
def leaving (r : ρ) : Except ε β → EStateM.Result ε ρ β
  | .ok v => .ok v r
  | .error f => .error f r

@[simp] theorem answer_leaving (r : ρ) (x : Except ε β) : answer (leaving r x) = x := by
  cases x <;> rfl

@[simp] theorem afterwards_leaving (r : ρ) (x : Except ε β) : afterwards (leaving r x) = r := by
  cases x <;> rfl

theorem answer_eq_ok {x : EStateM.Result ε ρ β} {v : β} :
    answer x = .ok v ↔ ∃ r, x = .ok v r := by
  cases x <;> simp [answer]

theorem answer_eq_error {x : EStateM.Result ε ρ β} {f : ε} :
    answer x = .error f ↔ ∃ r, x = .error f r := by
  cases x <;> simp [answer]

theorem eq_ok_of_answer {x : EStateM.Result ε ρ β} (v : β) (returned : (answer x).isOk = true) :
    ∃ r, x = .ok ((answer x).toOption.getD v) r := by
  cases x with
  | ok w r => exact ⟨r, rfl⟩
  | error f r => cases returned

/-- What the work gives or fails with does not depend on the state that it starts from. -/
def Steady (act : EStateM ε ρ β) : Prop := ∀ r r', answer (act r) = answer (act r')

namespace Steady

theorem pure (v : β) : Steady (Pure.pure v : EStateM ε ρ β) := fun _ _ => rfl

theorem throw (f : ε) : Steady (throw f : EStateM ε ρ β) := fun _ _ => rfl

theorem bind {act : EStateM ε ρ β} {next : β → EStateM ε ρ γ} (first : Steady act)
    (second : ∀ v, Steady (next v)) : Steady (act >>= next) := by
  intro r r'
  have same := first r r'
  simp only [Bind.bind, EStateM.bind]
  cases done : act r with
  | ok v t =>
    rw [done] at same
    obtain ⟨t', done'⟩ := answer_eq_ok.1 same.symm
    rw [done']
    exact second v t t'
  | error f t =>
    rw [done] at same
    cases done' : act r' with
    | ok v t' =>
      rw [done'] at same
      cases same
    | error f' t' =>
      rw [done'] at same
      cases same
      rfl

/-- What is given once is given in every state. -/
theorem gives {act : EStateM ε ρ β} (steady : Steady act) {v : β} (once : ∃ r r', act r = .ok v r')
    (r : ρ) : ∃ r', act r = .ok v r' := by
  obtain ⟨t, t', given⟩ := once
  apply answer_eq_ok.1
  rw [steady r t]
  exact answer_eq_ok.2 ⟨t', given⟩

theorem mapM {act : β → EStateM ε ρ γ} {xs : List β} (each : ∀ x ∈ xs, Steady (act x)) :
    Steady (xs.mapM act) := by
  induction xs with
  | nil => exact pure []
  | cons x rest ih =>
    rw [List.mapM_cons]
    have tail := ih fun y mem => each y (List.mem_cons_of_mem x mem)
    exact (each x List.mem_cons_self).bind fun v => tail.bind fun vs => pure (v :: vs)

end Steady

end

variable {σ τ α : Type} [Scalar α]

namespace Constraint

/-- What the check of the constraint comes to depends on the layout alone. -/
def Settled (registry : Registry τ α) (c : Constraint τ α) : Prop :=
  ∀ l, Steady (evaluate registry l c)

/-- The constraint may ask the predicate: it is its own, or the one of the name that it gives. -/
def MayAsk (registry : Registry τ α) (c : Constraint τ α) (p : Predicate τ α) : Prop :=
  c.predicate = some p ∨ registry (c.parameter "predicate").plain = some p

theorem steady_ask (c : Constraint τ α) {p : Predicate τ α} {l : Layout α}
    (steady : ∀ ps, Steady (p l ps)) : Steady (c.ask p l) := by
  apply Steady.bind (steady c.parameters)
  intro opinion
  exact .pure _

theorem steady_check {registry : Registry τ α} {c : Constraint τ α}
    (steady : ∀ p, c.MayAsk registry p → ∀ l ps, Steady (p l ps)) (l : Layout α) :
    Steady (c.check registry l) := by
  unfold check
  cases c.type with
  | connected => exact .pure _
  | custom =>
    show Steady (c.checkCustom registry l)
    unfold checkCustom
    split
    next p own => exact c.steady_ask (steady p (.inl own) l)
    next => exact .throw _
    next =>
      split
      next => exact .throw _
      next told =>
        obtain ⟨_, rfl⟩ := writing_eq_ok.1 told
        split
        next p named => exact c.steady_ask (steady p (.inr named) l)
        next => exact .pure _
  | _ =>
    dsimp only
    split
    · exact .pure _
    · exact .throw _

/-- A constraint is settled if no predicate that it may ask depends on its state. -/
theorem settled_of_steady {registry : Registry τ α} {c : Constraint τ α}
    (steady : ∀ p, c.MayAsk registry p → ∀ l ps, Steady (p l ps)) : c.Settled registry := by
  intro l t t'
  have same := steady_check steady l t t'
  unfold evaluate
  cases first : c.check registry l t with
  | ok v u =>
    rw [first] at same
    obtain ⟨u', second⟩ := answer_eq_ok.1 same.symm
    rw [second]
    rfl
  | error f u =>
    rw [first] at same
    obtain ⟨u', second⟩ := answer_eq_error.1 same.symm
    rw [second]
    dsimp only
    cases c.verdictOn f <;> rfl

theorem steady_evaluateAll {registry : Registry τ α} {cs : List (Constraint τ α)}
    (settled : ∀ c ∈ cs, c.Settled registry) (l : Layout α) :
    Steady (evaluateAll registry cs l) := Steady.mapM fun c mem => settled c mem l

end Constraint

namespace Generator

variable [Source σ α]

theorem steady_generate (g : Generator τ α) (s : Supply σ τ α) (plan : Except Fault (Plan α))
    (overrides : Fields α) (seed : Value α)
    (settled : ∀ c ∈ g.constraints, c.Settled s.registry) :
    Steady (g.generate s plan overrides seed) := by
  unfold generate
  split
  · refine (Constraint.steady_evaluateAll settled _).bind fun checks => ?_
    split
    · exact .pure _
    · exact .throw _
  · split
    · exact .pure _
    · exact .throw _

end Generator

end Dungeon
