import Dungeon.Proofs.Work.Contribution
import Dungeon.Proofs.Work.Survival

/-!
# What work adds

`Work.Adds` says that work which succeeds on a draft has added a contribution, and that on every
draft alike it draws, gives and adds the same. It is put together along the steps of the work: the
contributions of two steps add up, and most steps read or draw without adding anything.
-/

namespace Dungeon

variable {σ α β γ : Type}

namespace Work

/-- On the draft `d`, the work gives a value and adds a contribution that are so related. -/
def Adds (d : Draft α) (w : Work σ α β) (P : β → Contribution α → Prop) : Prop :=
  ∀ ⦃s : σ⦄ ⦃v : β⦄ ⦃t : Site σ α⦄, w ⟨d, s⟩ = .ok v t →
    ∃ k, t.draft = d.gain k ∧ P v k ∧ ∀ e, d.Alike e → w ⟨e, s⟩ = .ok v ⟨e.gain k, t.stream⟩

/-- The work gives such a value and adds nothing. -/
def Asks (d : Draft α) (w : Work σ α β) (P : β → Prop) : Prop :=
  Adds d w fun v k => k = {} ∧ P v

variable {d : Draft α}

namespace Adds

variable {w : Work σ α β} {f : β → Work σ α γ} {P : β → Contribution α → Prop}
  {Q : γ → Contribution α → Prop}

theorem mono {P' : β → Contribution α → Prop} (h : Adds d w P) (weaker : ∀ v k, P v k → P' v k) :
    Adds d w P' := by
  intro s v t done
  obtain ⟨k, draft, post, frame⟩ := h done
  exact ⟨k, draft, weaker v k post, frame⟩

theorem pure {v : β} (h : P v {}) : Adds d (pure v : Work σ α β) P := by
  intro s u t done
  obtain ⟨rfl, rfl⟩ := pure_eq_ok.1 done
  refine ⟨{}, d.gain_empty.symm, h, fun e _ => ?_⟩
  rw [e.gain_empty]
  rfl

/-- What two steps add adds up. -/
theorem bind (first : Adds d w P)
    (second : ∀ v k, P v k → Adds (d.gain k) (f v) fun u l => Q u (k ++ l)) :
    Adds d (w >>= f) Q := by
  intro s u t done
  obtain ⟨v, ⟨_, stream⟩, done, rest⟩ := bind_eq_ok.1 done
  obtain ⟨k, rfl, post, frame⟩ := first done
  obtain ⟨l, draft, post', frame'⟩ := second v k post rest
  refine ⟨k ++ l, by rw [draft, Draft.gain_append], post', fun e alike => ?_⟩
  rw [Draft.gain_append]
  exact bind_eq_ok.2 ⟨v, _, frame e alike, frame' _ (alike.gain k)⟩

/-- A step that adds nothing. -/
theorem ask {P : β → Prop} (first : Asks d w P) (second : ∀ v, P v → Adds d (f v) Q) :
    Adds d (w >>= f) Q := by
  refine first.bind fun v k ⟨none_added, post⟩ => ?_
  subst none_added
  simpa using second v post

theorem ite {c : Prop} [Decidable c] {x y : Work σ α β} (yes : c → Adds d x P)
    (no : ¬ c → Adds d y P) : Adds d (if c then x else y) P := by
  split
  next h => exact yes h
  next h => exact no h

/-- A draft is looked at for what drafts alike have in common. -/
theorem look {f : Draft α → Work σ α β} (h : Adds d (f d) P)
    (same : ∀ e, d.Alike e → f e = f d) : Adds d (draft >>= f) P := by
  intro s v t done
  obtain ⟨_, _, looked, done⟩ := bind_eq_ok.1 done
  cases looked
  obtain ⟨k, draft, post, frame⟩ := h done
  refine ⟨k, draft, post, fun e alike => bind_eq_ok.2 ⟨e, ⟨e, s⟩, rfl, ?_⟩⟩
  rw [same e alike]
  exact frame e alike

theorem write {f : Draft α → Draft α} (k : Contribution α) (h : ∀ e, f e = e.gain k) :
    Adds d (write f : Work σ α Unit) fun _ l => l = k := by
  intro s v t done
  cases done
  exact ⟨k, h d, rfl, fun e _ => by rw [Work.write, h e]⟩

theorem warn (nodeId message : String) :
    Adds d (Work.write fun d => d.warn nodeId message : Work σ α Unit) fun _ k =>
      k = { warnings := [nodeId ++ ": " ++ message] } :=
  write _ fun e => e.warn_eq nodeId message

theorem connect (c : Connection α) :
    Adds d (Work.write fun d => d.connect c : Work σ α Unit) fun _ k =>
      k = { connections := [c] } :=
  write _ fun e => e.connect_eq c

theorem addSpawnPoint (p : SpawnPoint α) :
    Adds d (Work.write fun d => d.addSpawnPoint p : Work σ α Unit) fun _ k =>
      k = { spawnPoints := [p] } :=
  write _ fun e => e.addSpawnPoint_eq p

theorem addExit (x : Exit α) :
    Adds d (Work.write fun d => d.addExit x : Work σ α Unit) fun _ k => k = { exits := [x] } :=
  write _ fun e => e.addExit_eq x

theorem setPlayerStart (area : SpawnArea) (offset : Point α) :
    Adds d (Work.write fun d => d.setPlayerStart area offset : Work σ α Unit) fun _ k =>
      k = { start := some (area, offset) } :=
  write _ fun e => e.setPlayerStart_eq area offset

theorem tryWrite {f : Draft α → Except Fault (Draft α)} {P : Contribution α → Prop}
    (h : ∀ d', f d = .ok d' →
      ∃ k, d' = d.gain k ∧ P k ∧ ∀ e, d.Alike e → f e = .ok (e.gain k)) :
    Adds d (tryWrite f : Work σ α Unit) fun _ k => P k := by
  intro s v t done
  unfold Work.tryWrite at done
  cases tried : f d with
  | error fault =>
    simp only [tried] at done
    cases done
  | ok d' =>
    simp only [tried] at done
    cases done
    obtain ⟨k, draft, post, frame⟩ := h d' tried
    refine ⟨k, draft, post, fun e alike => ?_⟩
    rw [Work.tryWrite, frame e alike]

theorem fail (j : Job α) (reason : String) : Adds d (j.fail reason : Work σ α β) P := by
  intro s v t done
  cases done

theorem fail_bind (j : Job α) (reason : String) : Adds d (j.fail reason >>= f) Q :=
  bind (P := fun _ _ => False) (fail j reason) fun _ _ h => h.elim

theorem failOver (j : Job α) (vs : List (Value α)) (reason : String) :
    Adds d (j.failOver vs reason : Work σ α β) P := by
  intro s v t done
  cases done

theorem failOver_bind (j : Job α) (vs : List (Value α)) (reason : String) :
    Adds d (j.failOver vs reason >>= f) Q :=
  bind (P := fun _ _ => False) (failOver j vs reason) fun _ _ h => h.elim

end Adds

namespace Asks

variable {w : Work σ α β} {P : β → Prop}

theorem mono {P' : β → Prop} (h : Asks d w P) (weaker : ∀ v, P v → P' v) : Asks d w P' :=
  Adds.mono h fun v _ ⟨none_added, post⟩ => ⟨none_added, weaker v post⟩

/-- Work that neither looks at the draft nor changes it. -/
theorem of_eq_ok (h : ∀ d s v t, w ⟨d, s⟩ = .ok v t →
    t.draft = d ∧ P v ∧ ∀ e, w ⟨e, s⟩ = .ok v ⟨e, t.stream⟩) : Asks d w P := by
  intro s v t done
  obtain ⟨draft, post, frame⟩ := h d s v t done
  refine ⟨{}, by rw [draft, Draft.gain_empty], ⟨rfl, post⟩, fun e _ => ?_⟩
  rw [Draft.gain_empty]
  exact frame e

theorem lift (x : Except Fault β) : Asks d (lift x : Work σ α β) fun v => x = .ok v := by
  refine of_eq_ok fun d s v t done => ?_
  obtain ⟨rfl, rfl⟩ := lift_eq_ok.1 done
  exact ⟨rfl, rfl, fun e => rfl⟩

theorem draw (x : Draw σ β) :
    Asks d (draw x : Work σ α β) fun v => ∃ s t, x s = .ok v t := by
  refine of_eq_ok fun d s v t done => ?_
  obtain ⟨stream, drawn, rfl⟩ := draw_eq_ok.1 done
  exact ⟨rfl, ⟨s, stream, drawn⟩, fun e => draw_eq_ok.2 ⟨stream, drawn, rfl⟩⟩

theorem map (f : β → γ) (h : Asks d w P) : Asks d (f <$> w) fun _ => True :=
  Adds.ask h fun _ _ => Adds.pure ⟨rfl, trivial⟩

/-- A value that is known already. -/
theorem known (v : β) : Asks d (pure v : Work σ α β) fun u => u = v := Adds.pure ⟨rfl, rfl⟩

theorem boundsOf (id : String) :
    Asks d (boundsOf id : Work σ α (Rect α)) fun b => d.boundsOf id = .ok b :=
  Adds.look (lift (d.boundsOf id)) fun e alike => by rw [alike.boundsOf id]

theorem blame (j : Job α) (h : Asks d w P) : Asks d (j.blame w) P := by
  intro s v t done
  obtain ⟨k, draft, post, frame⟩ := h (Job.blame_eq_ok.1 done)
  exact ⟨k, draft, post, fun e alike => Job.blame_eq_ok.2 (frame e alike)⟩

theorem failWith (j : Job α) (problems : List String) :
    Asks d (j.failWith problems : Work σ α Unit) fun _ => problems = [] :=
  Adds.ite (fun none_found => Adds.pure ⟨rfl, List.isEmpty_iff.1 none_found⟩) fun _ => Adds.fail j _

end Asks

end Work

namespace Draw

/-- A whole number is drawn from its lower bound up. -/
theorem integer_eq_ok [Source σ α] {low high m : Int} {s t : σ} (h : integer low high s = .ok m t) :
    low ≤ high ∧ ∃ s : σ, m = low + (Source.upTo (high - low).toNat s).1 := by
  have ordered : ¬ high < low := by
    intro reversed
    rw [integer, if_pos reversed] at h
    cases h
  have last : Yields (fun s => .ok (low + (Source.upTo (high - low).toNat s).1)
      (Source.upTo (high - low).toNat s).2 : Draw σ Int) fun m =>
      ∃ s : σ, m = low + (Source.upTo (high - low).toNat s).1 := by
    rintro s v t ⟨⟩
    exact ⟨s, rfl⟩
  have yields : Yields (integer low high : Draw σ Int) fun m =>
      ∃ s : σ, m = low + (Source.upTo (high - low).toNat s).1 := by
    refine .ite (.bind fun _ => ?_) ?_ <;> refine .ite (.bind fun _ => ?_) ?_ <;>
      exact .ite (.bind fun _ => last) last
  exact ⟨by omega, yields s m t h⟩

/-- What is chosen is one of the elements. -/
theorem mem_of_choose [Source σ α] {xs : List β} {x : β} {s t : σ} (h : choose xs s = .ok x t) :
    x ∈ xs := by
  unfold choose at h
  split at h
  · cases h
  · obtain ⟨i, s', _, h⟩ := bind_eq_ok.1 h
    cases found : xs[i.toNat]? with
    | none =>
      simp only [found] at h
      cases h
    | some y =>
      simp only [found] at h
      obtain ⟨rfl, _⟩ := pure_eq_ok.1 h
      exact List.mem_of_getElem? found

end Draw

/-- Some stream draws the number for the range. -/
def CountRange.Draws (σ : Type) [Source σ α] (range : CountRange) (m : Int) : Prop :=
  ∃ s t : σ, Draw.integer range.low range.high s = .ok m t

/-- What is said of a range is said as it is meant. -/
theorem eq_of_told {range : CountRange} {x v : β} (h : range.told x = .ok v) : x = v := by
  unfold CountRange.told at h
  split at h
  · exact (writing_eq_ok.1 h).2
  · exact Except.ok.inj h

namespace Job

open Work

variable {d : Draft α} (j : Job α)

theorem asks_require (s : Setting β α) (member : String) :
    Asks d (lift (s.require member) : Work σ α β) fun v => s = .proper v := by
  refine (Asks.lift _).mono fun v required => ?_
  cases s with
  | proper x =>
    cases required
    rfl
  | foreign => cases required

theorem asks_told (range : CountRange) (x : β) :
    Asks d (lift (range.told x) : Work σ α β) fun v => x = v :=
  (Asks.lift _).mono fun _ => eq_of_told

theorem asks_anchor (f : Fragment α) : Asks d (j.anchor f : Work σ α String) fun id => id ∈ d.ids := by
  refine .look ?_ fun e alike => by rw [alike.hasRoom]
  split
  next id attached =>
    have room : d.hasRoom id = true := (Option.filter_eq_some_iff.1 attached).2
    exact .pure ⟨rfl, Draft.hasRoom_iff.1 room⟩
  next => exact .fail j _

/-- A number that is counted is drawn from the range of the setting and not negative. -/
theorem asks_count [Source σ α] (s : Setting CountRange α) (name : String) :
    Asks d (j.count s name : Work σ α Nat) fun n =>
      ∃ range, s = .proper range ∧ range.Draws σ (n : Int) := by
  refine .ask (asks_require s "problems") fun range proper => ?_
  refine .ask (asks_told range _) fun problems same => .ask (.failWith j _) fun _ fine => ?_
  refine .ask (.draw _) fun m ⟨s, t, drawn⟩ => .pure ⟨rfl, range, proper, s, t, ?_⟩
  have positive : ¬ range.low < 0 := by
    intro negative
    simp [← same, CountRange.problems, negative] at fine
  obtain ⟨_, _, least⟩ := Draw.integer_eq_ok drawn
  rwa [Int.toNat_of_nonneg (by omega)]

variable [Scalar α]

theorem asks_single (incoming : List (Fragment α)) :
    Asks d (j.single incoming : Work σ α (Fragment α)) fun f => Fragment.merge incoming = .ok f :=
  .ite (fun _ => .fail j _) fun _ => Asks.lift _

theorem asks_pathWeights (weights : Value α) :
    Asks d (j.pathWeights weights : Work σ α (List α)) fun _ => True := by
  have scaled : Asks d (j.blame (lift (do normalised (← weights.parts))) : Work σ α (List α))
      fun _ => True := .blame j ((Asks.lift _).mono fun _ _ => trivial)
  exact .ask (.lift _) fun _ _ => .ite (fun _ => .fail_bind j _) fun _ => scaled

end Job

end Dungeon
