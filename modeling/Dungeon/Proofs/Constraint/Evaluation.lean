import Dungeon.Constraint.Check
import Dungeon.Proofs.Failing
import Mathlib.Data.List.Forall2

/-!
# When checks return

A check of a constraint turns missing, misshapen and unordered data into a failure of the
constraint. One thing is not turned into that: a whole number for which the arithmetic is too small.
Such a number makes the whole evaluation fail where a bound is converted, and where levels are.
-/

namespace Dungeon

variable {τ α β : Type} [Scalar α]

/-- A level of the room is too large, its own or that of one of its entities. -/
def Room.Overlevel (r : Room α) (key : String) : Prop :=
  (Value.field r.metadata key).Oversized ∨
    ∃ e ∈ r.entities, (Value.field e.metadata key).Oversized

namespace Fault

/-- The faults that count as a failure of the constraint being checked. -/
def Pardoned (f : Fault) : Prop := f.kind = .key ∨ f.kind = .value ∨ f.kind = .type

/-- A pardoned fault, or a number that is too large while something is. -/
def PardonedUnless (oversized : Prop) (f : Fault) : Prop := f.Pardoned ∨ f = .tooLarge ∧ oversized

theorem Pardoned.unless {f : Fault} (h : f.Pardoned) (oversized : Prop) :
    f.PardonedUnless oversized := .inl h

theorem pardoned_missingKey (key : String) : (missingKey key).Pardoned := .inl rfl

end Fault

open Fault

theorem pardoned_unwritable : unwritable.Pardoned := .inr (.inl rfl)

omit [Scalar α] in
theorem pardoned_writing (vs : List (Value α)) (x : β) : FailsOnly Pardoned (Value.writing vs x) :=
  .writing fun _ => pardoned_unwritable

omit [Scalar α] in
theorem Verdict.pardoned_said (vs : List (Value α)) (v : Verdict α) :
    FailsOnly Pardoned (v.said vs) :=
  .ite (.ok v) (pardoned_writing vs v)

omit [Scalar α] in
theorem failsOnly_require (fields : Fields α) (key : String) :
    FailsOnly Pardoned (Value.require fields key) := by
  unfold Value.require
  split
  · exact .ok _
  · exact .error (pardoned_missingKey _)

theorem failsOnly_holds (container element : Value α) :
    FailsOnly Pardoned (container.holds element) := by
  unfold Value.holds
  split
  · exact .ok _
  · exact .ok _
  · split
    · exact .ok _
    · exact .error (.inr (.inr rfl))
  · refine FailsOnly.bind ?_ fun _ _ => .ok _
    unfold Value.key
    split
    · exact .error (.inr (.inr rfl))
    · exact .ok _
  · exact .error (.inr (.inr rfl))

theorem Entity.failsOnly_answersTo (e : Entity α) (tag : Value α) :
    FailsOnly Pardoned (e.answersTo tag) :=
  .ite (.ok true) (failsOnly_holds _ tag)

namespace Constraint

theorem failsOnly_someEntity (tag : Value α) (entities : List (Entity α)) :
    FailsOnly Pardoned (someEntity tag entities) := by
  induction entities with
  | nil => exact .ok false
  | cons e rest ih => exact (e.failsOnly_answersTo tag).bind fun _ _ => .ite (.ok true) ih

theorem failsOnly_finds (tag target : Value α) (r : Room α) :
    FailsOnly Pardoned (finds tag target r) := by
  unfold finds
  dsimp only
  apply FailsOnly.ite
  · exact (failsOnly_someEntity tag r.entities).bind fun _ _ => .ok _
  · exact .ok _

theorem failsOnly_ordered (c : Constraint τ α) (l : Layout α) (rooms : List String) :
    FailsOnly Pardoned (c.ordered l rooms) := by
  unfold ordered
  split
  · exact .ok rooms
  · exact .ok []
  · refine (pardoned_writing _ _).bind fun selector _ => ?_
    dsimp only
    split
    · exact .error (.inr (.inl rfl))
    · exact .ok _

theorem failsOnly_found (c : Constraint τ α) (l : Layout α) : FailsOnly Pardoned (c.found l) := by
  unfold found
  refine (failsOnly_require c.parameters "tag").bind fun tag _ => ?_
  refine (pardoned_writing _ _).bind fun tag _ => ?_
  refine FailsOnly.bind ?_ fun rooms _ => ?_
  · exact FailsOnly.bind (.filterM fun r _ => failsOnly_finds _ _ r) fun _ _ => .ok _
  · exact (c.failsOnly_ordered l rooms).bind fun _ _ => .ok _

/-- A bound of the constraint is too large. -/
def Overbound (c : Constraint τ α) : Prop :=
  (c.parameter "min").Oversized ∨ (c.parameter "max").Oversized

/-- The end of that name, when it is given. -/
def readGiven (c : Constraint τ α) (name : String) : Except Fault (Option (Number α)) :=
  match c.parameters.named? name with
  | some v => some <$> Bounds.readEnd name v
  | none => .ok none

theorem readEnds_eq (c : Constraint τ α) :
    Bounds.readEnds c = do
      let low ← c.readGiven "min"
      let high ← c.readGiven "max"
      return (low.getD (.real 0.0), high) := by
  unfold Bounds.readEnds readGiven
  cases c.parameters.named? "min" with
  | none => cases c.parameters.named? "max" <;> rfl
  | some v =>
    dsimp only
    cases Bounds.readEnd "min" v with
    | error f => rfl
    | ok low => cases c.parameters.named? "max" <;> rfl

/-- A level of one of the rooms is too large. -/
def Overlevel (l : Layout α) (key : String) : Prop := ∃ r ∈ l.rooms, r.Overlevel key

theorem failsOnly_level (v : Value α) :
    FailsOnly (fun f => f = .tooLarge ∧ v.Oversized) (level? v) := by
  unfold level?
  split
  · exact (failsOnly_toScalar _).map some
  · exact .ok none

theorem failsOnly_roomLevel (r : Room α) (key : String) :
    FailsOnly (fun f => f = .tooLarge ∧ r.Overlevel key) (roomLevel r key) := by
  unfold roomLevel
  refine FailsOnly.bind ?_ fun own _ => ?_
  · exact (failsOnly_level _).mono fun f ⟨failed, oversized⟩ => ⟨failed, .inl oversized⟩
  split
  · exact .ok _
  refine FailsOnly.bind (.mapM fun e mem => ?_) fun levels _ => ?_
  · exact (failsOnly_level _).mono fun f ⟨failed, oversized⟩ => ⟨failed, .inr ⟨e, mem, oversized⟩⟩
  split
  · exact .ok none
  · exact .ok _

/-- The name of the levels that the constraint is about. -/
def levelKey (c : Constraint τ α) : String :=
  (Value.fieldOr c.parameters "key" (.text "difficulty")).plain

/-- Something that the check converts to the arithmetic is too large for it. -/
def Oversized (c : Constraint τ α) (l : Layout α) : Prop :=
  match c.type with
  | .distance | .count | .density => c.Overbound
  | .progression => Overlevel l c.levelKey
  | .required | .forbidden | .connected | .custom => False

/-- A verdict or a fault as what a check comes to in a state that it leaves alone. -/
def outcome (t : τ) : Except Fault (Verdict α) → EStateM.Result Fault τ (Verdict α)
  | .ok v => .ok v t
  | .error f => .error f t

/-- What a constraint finds that asks no predicate. -/
def findings (c : Constraint τ α) (l : Layout α) : Except Fault (Verdict α) :=
  match c.type with
  | .distance => c.checkDistance l
  | .count => c.checkCount l
  | .density => c.checkDensity l
  | .progression => c.checkProgression l
  | .required => c.checkRequired l
  | .forbidden => c.checkForbidden l
  | .connected => .ok (checkConnected l)
  | .custom => .error .noPredicate

/-- A check that asks no predicate changes nothing. -/
theorem check_plain (registry : Registry τ α) (c : Constraint τ α) (l : Layout α)
    (plain : c.type ≠ .custom) (t : τ) : c.check registry l t = outcome t (c.findings l) := by
  have settle (x : Except Fault (Verdict α)) :
      (match x with
        | .ok v => pure v
        | .error f => throw f : EStateM Fault τ (Verdict α)) t = outcome t x := by
    cases x <;> rfl
  unfold check findings
  cases type : c.type with
  | connected => rfl
  | custom => exact absurd type plain
  | _ => exact settle _

omit [Scalar α] in
theorem verdictOn_of_pardoned (c : Constraint τ α) {f : Fault} (h : f.Pardoned) :
    ∃ v, c.verdictOn f = some v := by
  unfold verdictOn
  obtain key | value | type := h
  · rw [key]
    exact ⟨_, rfl⟩
  · rw [value]
    exact ⟨_, rfl⟩
  · rw [type]
    exact ⟨_, rfl⟩

omit [Scalar α] in
theorem verdictOn_tooLarge (c : Constraint τ α) (plain : c.type ≠ .custom) :
    c.verdictOn .tooLarge = none := if_neg plain

omit [Scalar α] in
/-- A fault never lets a constraint pass. -/
theorem not_passed_of_verdictOn {c : Constraint τ α} {f : Fault} {v : Verdict α}
    (turned : c.verdictOn f = some v) : v.passed = false := by
  unfold verdictOn at turned
  split at turned
  case h_6 =>
    split at turned
    · cases turned
      rfl
    · cases turned
  all_goals
    cases turned
    rfl

section

variable (registry : Registry τ α) {c : Constraint τ α} {l : Layout α}

/-- A constraint that asks no predicate passes if what it finds does. -/
theorem evaluate_of_findings (plain : c.type ≠ .custom) {v : Verdict α} (found : c.findings l = .ok v)
    (t : τ) : ∃ result, evaluate registry l c t = .ok result t ∧ result.passed = v.passed := by
  unfold evaluate
  rw [check_plain registry c l plain, found]
  exact ⟨_, rfl, rfl⟩

theorem evaluate_of_tooLarge (plain : c.type ≠ .custom) (failed : c.findings l = .error .tooLarge)
    (t : τ) : evaluate registry l c t = .error .tooLarge t := by
  unfold evaluate
  rw [check_plain registry c l plain, failed]
  simp only [outcome, c.verdictOn_tooLarge plain]

/-- A constraint that asks no predicate fails with a fault that is pardoned. -/
theorem evaluate_of_pardoned (plain : c.type ≠ .custom) {f : Fault}
    (failed : c.findings l = .error f) (pardoned : f.Pardoned) (t : τ) :
    ∃ result, evaluate registry l c t = .ok result t ∧ result.passed = false := by
  obtain ⟨v, turned⟩ := c.verdictOn_of_pardoned pardoned
  unfold evaluate
  simp only [check_plain registry c l plain, failed, outcome, turned]
  exact ⟨_, rfl, not_passed_of_verdictOn turned⟩

end

/-- The result is that of the constraint. -/
def Answers (registry : Registry τ α) (l : Layout α) (c : Constraint τ α) (r : CheckResult α) :
    Prop :=
  r.constraintId = c.id ∧ r.severity = c.severity ∧ ∀ t, evaluate registry l c t = .ok r t

namespace Trial

/-- A layout without rooms. -/
def layout : Layout Float := { playerStart := ⟨0.0, 0.0⟩ }

/-- A count of rooms that starts from a number. -/
def count (low : Int) : Constraint Unit Float :=
  { id := "count", type := .count, parameters := .ofTexts [("min", .int low)] }

end Trial

namespace Trial

/-- A hall, and a vault beyond it that is the exit. -/
def rooms : Layout Float where
  rooms := [
    { id := "hall", type := .text "stone", bounds := ⟨0.0, 0.0, 4.0, 4.0⟩ },
    { id := "vault", type := .text "stone", bounds := ⟨8.0, 0.0, 4.0, 4.0⟩,
      tags := [.text "gold"] }]
  connections := [⟨"hall", "vault", ⟨4.0, 2.0⟩, ⟨8.0, 2.0⟩⟩]
  playerStart := ⟨2.0, 2.0⟩
  startRoom := some "hall"
  exits := [{ position := ⟨10.0, 2.0⟩, roomId := "vault" }]

/-- Constraints of several types. All parameters are malformed but those of the first and the last. -/
def constraints : List (Constraint Unit Float) := [
  count 2,
  { id := "spread", type := .density, parameters := .ofTexts [("mode", .text "total")] },
  { id := "many", type := .count, parameters := .ofTexts [("min", .text "two")] },
  { id := "near", type := .distance, parameters := .ofTexts [("to", .text "vault")] },
  { id := "order", type := .required, severity := .warning,
    parameters := .ofTexts [("tag", .text "gold"), ("before", .text "attic")] },
  { id := "whole", type := .connected }]

/-- What the constraints find. -/
def findings : List (String × Bool × String) := [
  ("count", true, "None"),
  ("spread", false, "invalid parameters: mode must be 'average' or 'per_room', got 'total'"),
  ("many", false, "invalid parameters: 'min' must be a number, got 'two'"),
  ("near", false, "invalid parameters: missing parameter 'from'"),
  ("order", false, "invalid parameters: no reachable room matches 'attic'"),
  ("whole", true, "None")]

/-- What one reads off the results. -/
def read : EStateM.Result Fault Unit (List (CheckResult Float)) →
    Option (List (String × Bool × String))
  | .ok rs _ => some (rs.map fun r => (r.constraintId, r.passed, r.message.plain))
  | .error _ _ => none

end Trial

end Constraint

end Dungeon
