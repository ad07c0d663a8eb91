import Dungeon.Proofs.Reporting
import Dungeon.Proofs.Run.Growth
import Dungeon.Proofs.Steady

/-!
# Generations that are tried again

A generation with several attempts takes one seed after the other. What comes back is the generation
of the first seed that succeeds, and of the last one if none does; it differs from a single generation
of that seed in the number of attempts before it and in nothing else. A graph that is refused is tried
once.
-/

namespace Dungeon

variable {σ τ α : Type}

/-- The generation with the number of attempts that were made before it. -/
def Generation.triedAfter (r : Generation α) (attempts : Nat) : Generation α :=
  { r with data := { r.data with retries := attempts } }

/-- Of so many attempts the first that succeeds decides, or else the last one. -/
structure Decides (succeeds : Nat → Bool) (attempts k : Nat) : Prop where
  within : k < attempts
  failed : ∀ j < k, succeeds j = false
  decided : succeeds k = true ∨ k + 1 = attempts

namespace Decides

variable {succeeds : Nat → Bool} {attempts k : Nat}

theorem first (success : succeeds 0 = true) : Decides succeeds (attempts + 1) 0 where
  within := Nat.succ_pos attempts
  failed j before := absurd before (Nat.not_lt_zero j)
  decided := .inl success

theorem only (succeeds : Nat → Bool) : Decides succeeds 1 0 where
  within := Nat.one_pos
  failed j before := absurd before (Nat.not_lt_zero j)
  decided := .inr rfl

/-- After a failure the other attempts decide. -/
theorem later (failure : succeeds 0 = false) (h : Decides (fun j => succeeds (j + 1)) attempts k) :
    Decides succeeds (attempts + 1) (k + 1) where
  within := Nat.succ_lt_succ h.within
  failed j before := by
    cases j with
    | zero => exact failure
    | succ j => exact h.failed j (Nat.lt_of_succ_lt_succ before)
  decided := by
    rcases h.decided with success | last
    · exact .inl success
    · exact .inr (congrArg Nat.succ last)

end Decides

namespace Generator

variable [Scalar α] [Source σ α]

section

variable (g : Generator τ α) (s : Supply σ τ α) (plan : Plan α) (overrides : Fields α)

/-- An attempt ends the search if it is the last one or succeeds. -/
theorem attempt_eq (seed : Int) (more made : Nat) (t : τ) :
    g.attempt s plan overrides (.int seed) more made t =
      match g.generate s (.ok plan) overrides (.int (seed + made)) t with
      | .ok r t' =>
        match more with
        | 0 => .ok (r.triedAfter made) t'
        | more + 1 =>
          if r.success then .ok (r.triedAfter made) t'
          else g.attempt s plan overrides (.int seed) more (made + 1) t'
      | .error f t' => .error f t' := by
  have next : (Value.int seed : Value α).plus made = .ok (.int (seed + made)) := rfl
  conv_lhs => unfold attempt
  rw [next]
  simp only [bind, EStateM.bind, pure, EStateM.pure]
  cases g.generate s (.ok plan) overrides (.int (seed + made)) t with
  | error f t' => rfl
  | ok r t' =>
    cases more with
    | zero => rfl
    | succ more =>
      dsimp only
      split <;> rfl

variable {g s plan overrides}

/-- Each seed has a generation of its own, and the attempts come to the one that decides. -/
theorem attempt_decides {seed : Int} {more made : Nat} {single : Nat → Generation α}
    (alone : ∀ j ≤ more, ∀ t, ∃ t',
      g.generate s (.ok plan) overrides (.int (seed + (made + j : Nat))) t = .ok (single j) t') :
    ∃ k, Decides (fun j => (single j).success) (more + 1) k ∧
      ∀ t, answer (g.attempt s plan overrides (.int seed) more made t) =
        .ok ((single k).triedAfter (made + k)) := by
  induction more generalizing made single with
  | zero =>
    refine ⟨0, .only _, ?_⟩
    intro t
    obtain ⟨t', given⟩ := alone 0 (Nat.le_refl 0) t
    rw [attempt_eq, ← Nat.add_zero made, given]
    rfl
  | succ more ih =>
    cases success : (single 0).success with
    | true =>
      refine ⟨0, .first success, ?_⟩
      intro t
      obtain ⟨t', given⟩ := alone 0 (Nat.zero_le _) t
      rw [attempt_eq, ← Nat.add_zero made, given]
      simp only [success, if_true]
      rfl
    | false =>
      have others : ∀ j ≤ more, ∀ t, ∃ t', g.generate s (.ok plan) overrides
          (.int (seed + (made + 1 + j : Nat))) t = .ok (single (j + 1)) t' := by
        intro j le t
        rw [Nat.add_right_comm, Nat.add_assoc]
        exact alone (j + 1) (Nat.succ_le_succ le) t
      obtain ⟨k, decides, comes⟩ := ih others
      refine ⟨k + 1, decides.later success, ?_⟩
      intro t
      obtain ⟨t', given⟩ := alone 0 (Nat.zero_le _) t
      have next := comes t'
      rw [attempt_eq, ← Nat.add_zero made, given]
      simp only [success, Bool.false_eq_true, if_false, Nat.add_zero]
      rw [next, Nat.add_right_comm, Nat.add_assoc]

end

/-- A graph that is refused makes a failed generation, if it makes one at all. -/
theorem refused_of_generate {g : Generator τ α} {s : Supply σ τ α} {f : Fault}
    {overrides : Fields α} {seed : Value α} {t t' : τ} {r : Generation α}
    (done : g.generate s (.error f) overrides seed t = .ok r t') :
    r.success = false ∧ r.data.retries = 0 := by
  rcases generate_cases done with ⟨report, checks, laid, _⟩ | ⟨f, errors, _, _, rfl⟩
  · obtain ⟨parameters, _, laid⟩ := except_bind_eq_ok.1 laid
    cases laid
  · exact ⟨rfl, rfl⟩

theorem attemptCount_int (n : Int) : attemptCount (.int n : Value α) = n.toNat := rfl

/-- Generations with several attempts, for constraints whose checks depend on the layout alone. On an
accepted graph for which each of the seeds in question has a generation, the result is the one that
decides, the first that succeeds or else the last, with the number of attempts before it. On a graph
that is refused it is what a single generation comes to, which has failed at its first attempt. -/
theorem generateWithRetry_decides (g : Generator τ α) (s : Supply σ τ α)
    (settled : ∀ c ∈ g.constraints, c.Settled s.registry) (retries : Value α) (overrides : Fields α)
    (seed attempts : Int) (some_attempt : 1 ≤ attempts) :
    (∀ found, g.graph.ensureValid = .ok found → ∀ single : Nat → Generation α,
      (∀ k : Nat, k < attempts → ∃ t t',
        g.generate s (Plan.ofValid g.graph retries) overrides (.int (seed + k)) t =
          .ok (single k) t') →
      ∃ k : Nat, k < attempts ∧ (∀ j < k, (single j).success = false) ∧
        ((single k).success = true ∨ k = attempts - 1) ∧
        ∀ t, answer (g.generateWithRetry s (Plan.ofValid g.graph retries) overrides (.int seed)
          (.int attempts) t) = .ok ((single k).triedAfter k)) ∧
    ∀ vs, g.graph.ensureValid = .error (.invalidGraph vs) → ∀ t r t',
      g.generate s (Plan.ofValid g.graph retries) overrides (.int seed) t = .ok r t' →
      r.success = false ∧ r.data.retries = 0 ∧
        g.generateWithRetry s (Plan.ofValid g.graph retries) overrides (.int seed) (.int attempts) t =
          .ok r t' := by
  have counted : Value.compare .lt (.int attempts) (.int 1 : Value α) = .ok false := by
    have enough : ¬ attempts < 1 := by omega
    show Except.ok (decide (attempts < 1)) = _
    rw [decide_eq_false enough]
  constructor
  · intro found valid single alone
    rw [Graph.Sound.plan_of_ensureValid retries valid] at alone ⊢
    have given : ∀ j ≤ attempts.toNat - 1, ∀ t, ∃ t', g.generate s (.ok ⟨g.graph, retries⟩) overrides
        (.int (seed + (0 + j : Nat))) t = .ok (single j) t' := by
      intro j le
      rw [Nat.zero_add]
      apply (g.steady_generate s _ overrides _ settled).gives
      exact alone j (by omega)
    obtain ⟨k, decides, comes⟩ := attempt_decides given
    have within := decides.within
    refine ⟨k, by omega, decides.failed, ?_, ?_⟩
    · rcases decides.decided with success | last
      · exact .inl success
      · right
        omega
    · intro t
      have result := comes t
      rw [Nat.zero_add] at result
      unfold generateWithRetry
      rw [counted, attemptCount_int]
      exact result
  · intro vs refused t r t' done
    have unplanned : Plan.ofValid g.graph retries = .error (.invalidGraph vs) := by
      rw [Plan.ofValid, refused]
      rfl
    rw [unplanned] at done ⊢
    obtain ⟨failed, first⟩ := refused_of_generate done
    refine ⟨failed, first, ?_⟩
    unfold generateWithRetry
    rw [counted]
    exact done

namespace Lodge

open Run.Gate.graph (node)

/-- A hall of one to four rooms between the start and the stairs. -/
def graph : Graph Float where
  nodes := [
    node "start" (.start {}) [] ["out"],
    node "hall" (.roomChain { count := .proper ⟨1, 4⟩, plan := { size := .proper .ofChain } })
      ["in"] ["out"],
    node "stairs" (.output {}) ["in"] []]
  edges := [
    { id := "enter", source := ⟨"start", "out"⟩, target := ⟨"hall", "in"⟩ },
    { id := "leave", source := ⟨"hall", "out"⟩, target := ⟨"stairs", "in"⟩ }]

/-- All nodes draw alike, from the seed. -/
def supply : Supply Random.Stream Nat Float :=
  { stream := fun seed _ => .ofSeed (.ofNat seed.toNat), registry := fun _ => none }

/-- More than three rooms; the predicate counts how often it was asked. -/
def spacious : Constraint Nat Float where
  id := "spacious"
  type := .custom
  predicate := some fun l _ asked => .ok { value := .bool (3 < l.rooms.length) } (asked + 1)

def generator : Generator Nat Float := { graph, constraints := [spacious] }

/-- The same without a node. -/
def empty : Generator Nat Float := { generator with graph := {} }

theorem settled : ∀ c ∈ generator.constraints, c.Settled supply.registry := by
  intro c mem
  obtain rfl : c = spacious := List.mem_singleton.1 mem
  apply Constraint.settled_of_steady
  intro p asked l ps t t'
  rcases asked with own | named
  · cases own
    rfl
  · cases named

/-- What comes of the seeds from 5 on. -/
def made (k : Nat) : EStateM.Result Fault Nat (Generation Float) :=
  generator.generate supply (Plan.ofValid graph (.int 8)) [] (.int (5 + k)) 0

def single (k : Nat) : Generation Float :=
  (answer (made k)).toOption.getD { seed := .int (5 + k), success := false }

end Lodge

open Lodge in
/-- Two seeds make halls that are too small and the third one succeeds; without a node the graph is
refused, at once. -/
theorem generateWithRetry_decides_lodge :
    ((∃ found, generator.graph.ensureValid = .ok found) ∧
      ∀ t, answer (generator.generateWithRetry supply (Plan.ofValid generator.graph (.int 8)) []
        (.int 5) (.int 4) t) = .ok ((single 2).triedAfter 2)) ∧
    ∃ vs r, empty.graph.ensureValid = .error (.invalidGraph vs) ∧ r.success = false ∧
      empty.generateWithRetry supply (Plan.ofValid empty.graph (.int 8)) [] (.int 5) (.int 4) 0 =
        .ok r 0 := by
  constructor
  · have accepted : ∃ found, generator.graph.ensureValid = .ok found := ⟨_, rfl⟩
    have returned : ∀ k < 4, (answer (made k)).isOk = true := by decide +kernel
    have alone : ∀ k : Nat, (k : Int) < 4 → ∃ t t',
        generator.generate supply (Plan.ofValid generator.graph (.int 8)) [] (.int (5 + k)) t =
          .ok (single k) t' := by
      intro k within
      exact ⟨0, eq_ok_of_answer _ (returned k (by omega))⟩
    have outcomes : ∀ k < 3, (single k).success = decide (k = 2) := by decide +kernel
    obtain ⟨found, valid⟩ := accepted
    obtain ⟨k, within, failed, decided, result⟩ := (generateWithRetry_decides generator supply
      settled (.int 8) [] 5 4 (by decide)).1 found valid single alone
    have third : k = 2 := by
      by_contra other
      rcases Nat.lt_or_gt_of_ne other with early | late
      · have fails := (outcomes k (by omega)).trans (decide_eq_false other)
        rcases decided with success | last
        · exact Bool.false_ne_true (fails.symm.trans success)
        · omega
      · exact Bool.false_ne_true ((failed 2 late).symm.trans (outcomes 2 (by decide)))
    rw [third] at result
    exact ⟨⟨found, valid⟩, result⟩
  · have refused : ∃ vs, empty.graph.ensureValid = .error (.invalidGraph vs) := ⟨_, rfl⟩
    have done : ∃ r, empty.generate supply (Plan.ofValid empty.graph (.int 8)) [] (.int 5) 0 =
        .ok r 0 := ⟨_, rfl⟩
    obtain ⟨vs, refused⟩ := refused
    obtain ⟨r, done⟩ := done
    obtain ⟨failed, _, same⟩ := (generateWithRetry_decides empty supply
      settled (.int 8) [] 5 4 (by decide)).2 vs refused 0 r 0 done
    exact ⟨vs, r, refused, failed, same⟩

end Generator

end Dungeon
