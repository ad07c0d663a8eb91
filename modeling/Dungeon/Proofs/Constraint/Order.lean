import Dungeon.Proofs.RoomGraph

/-!
# In front of rooms and behind them

A constraint may ask for rooms before others or after others, by hops from the start. The rooms that it
keeps are those on the one side that it looks at: in front of every room of a selector, or behind every
one. A constraint that asks for both sides looks at the first alone, and says nothing of the other.
-/

namespace Dungeon

variable {τ α : Type}

namespace Layout

/-- So many hops lead from the start to the room, and no fewer do. -/
def Away (l : Layout α) (id : String) (n : Nat) : Prop :=
  ∃ start ∈ l.startRoom, ∃ path, Shortest (l.Joins false) start id path ∧ path.length = n + 1

/-- With a start that is a key the search finds how many hops a room is away. -/
theorem find?_distances_iff_away {l : Layout α} {start id : String} (first : l.startRoom = some start)
    (key : (l.ways false).contains start = true) {n : Nat} :
    ((l.ways false).distances start).find? id = some n ↔ l.Away id n := by
  rw [Adjacency.find?_distances_iff key, leads_ways, Away, first]
  simp

end Layout

namespace Constraint

/-- So many hops are on the side of so many others. -/
def Side.Orders : Side → Nat → Nat → Prop
  | before, n, m => n < m
  | after, n, m => m < n

theorem Side.admits_iff {side : Side} {others : List Nat} {n : Nat} :
    side.admits others n = true ↔ ∀ m ∈ others, side.Orders n m := by
  cases side <;> simp [admits, Orders]

/-- The constraint asks for rooms on the side of those of a selector. -/
def Asks (c : Constraint τ α) (side : Side) : Prop := c.parameter side.name ≠ .null

/-- The constraint looks at the side: at the rooms behind others only if it does not ask for those in
front of some. -/
def Minds (c : Constraint τ α) : Side → Prop
  | .before => c.Asks .before
  | .after => c.Asks .after ∧ ¬ c.Asks .before

variable [Scalar α]

/-- The room is reached, and it is on the side of every room of the selector that is reached. -/
def Side.Holds (side : Side) (l : Layout α) (selector id : String) : Prop :=
  ∃ n, l.Away id n ∧ ∀ other ∈ l.select selector, ∀ m, l.Away other m → side.Orders n m

/-- The room is on every side that the constraint asks for. -/
def Meets (c : Constraint τ α) (l : Layout α) (id : String) : Prop :=
  ∀ side, c.Asks side → side.Holds l (c.parameter side.name).plain id

/-- The room is on the side that the constraint looks at, if there is one. -/
def Heeds (c : Constraint τ α) (l : Layout α) (id : String) : Prop :=
  ∀ side, c.Minds side → side.Holds l (c.parameter side.name).plain id

/-- What the constraint looks for is the room or is in it. -/
def Seeks (c : Constraint τ α) (r : Room α) : Prop :=
  ∃ tag, c.demand "tag" = .ok tag ∧
    finds (.text tag.plain) (Value.fieldOr c.parameters "target" (.text "any")) r = .ok true

variable {c : Constraint τ α} {l : Layout α}

theorem side?_eq_some_iff {side : Side} {selector : String} : c.side? = some (side, selector) ↔
    c.Minds side ∧ (c.parameter side.name).plain = selector := by
  unfold side?
  split
  next no_front no_back => cases side <;> simp [Minds, Asks, Side.name, no_front, no_back]
  next no_front back =>
    have given : ¬ c.parameter "after" = .null := back
    cases side <;> simp [Minds, Asks, Side.name, no_front, given]
  next front _ =>
    have given : ¬ c.parameter "before" = .null := front
    cases side <;> simp [Minds, Asks, Side.name, given]

theorem heeds_iff_holds {side : Side} {selector id : String}
    (given : c.side? = some (side, selector)) : c.Heeds l id ↔ side.Holds l selector id := by
  obtain ⟨minds, rfl⟩ := side?_eq_some_iff.1 given
  constructor
  · exact fun heeds => heeds side minds
  · intro holds other minds'
    -- It looks at one side only.
    have same := given.symm.trans (side?_eq_some_iff.2 ⟨minds', rfl⟩)
    cases same
    exact holds

theorem not_minds_of_side?_eq_none (none_given : c.side? = none) (side : Side) : ¬ c.Minds side := by
  intro minds
  rw [side?_eq_some_iff.2 ⟨minds, rfl⟩] at none_given
  cases none_given

/-- Unless it asks for both sides, the constraint looks at all that it asks for. -/
theorem heeds_iff_meets (one : ¬ (c.Asks .before ∧ c.Asks .after)) (id : String) :
    c.Heeds l id ↔ c.Meets l id := by
  refine forall_congr' fun side => ?_
  cases side with
  | before => exact Iff.rfl
  | after =>
    have same : c.Minds .after ↔ c.Asks .after :=
      ⟨And.left, fun given => ⟨given, fun other => one ⟨other, given⟩⟩⟩
    rw [same]

/-- The distances of the rooms of a selector are the hops by which those that are reached are away. -/
theorem mem_reference_iff {start selector : String} (first : l.startRoom = some start)
    (key : (l.ways false).contains start = true) {m : Nat} :
    m ∈ (l.select selector).filterMap ((l.ways false).distances start).find? ↔
      ∃ other ∈ l.select selector, l.Away other m := by
  simp only [List.mem_filterMap, Layout.find?_distances_iff_away first key]

omit [Scalar α] in
/-- A distance is only known of rooms when the start is a key. -/
theorem contains_of_mem_reference {start : String} {others : List String} {m : Nat}
    (known : m ∈ others.filterMap ((l.ways false).distances start).find?) :
    (l.ways false).contains start = true := by
  by_contra no_key
  obtain ⟨other, _, found⟩ := List.mem_filterMap.1 known
  rw [Adjacency.distances, if_neg no_key] at found
  cases found

theorem admits_iff_holds {start selector id : String} {side : Side}
    (first : l.startRoom = some start) (key : (l.ways false).contains start = true) :
    (((l.ways false).distances start).find? id).any (side.admits
        ((l.select selector).filterMap ((l.ways false).distances start).find?)) = true ↔
      side.Holds l selector id := by
  rw [Option.any_eq_true]
  refine exists_congr fun n => ?_
  rw [Layout.find?_distances_iff_away first key, Side.admits_iff]
  simp only [mem_reference_iff first key]
  refine and_congr_right fun _ => ⟨fun all other selected m away => ?_, fun all m known => ?_⟩
  · exact all m ⟨other, selected, away⟩
  · obtain ⟨other, selected, away⟩ := known
    exact all other selected m away

/-- The rooms that are kept, in their order, are those on the side that the constraint looks at. -/
theorem ordered_keeps {rooms kept : List String} (returned : c.ordered l rooms = .ok kept) :
    kept.Sublist rooms ∧ ∀ id, id ∈ kept ↔ id ∈ rooms ∧ c.Heeds l id := by
  unfold ordered at returned
  split at returned
  next no_side =>
    cases returned
    refine ⟨.refl _, fun id => (and_iff_left ?_).symm⟩
    exact fun side minds => absurd minds (not_minds_of_side?_eq_none no_side side)
  next look given no_start =>
    cases returned
    refine ⟨List.nil_sublist _, fun id => iff_of_false List.not_mem_nil fun ⟨_, heeds⟩ => ?_⟩
    obtain ⟨n, ⟨start, first, _⟩, _⟩ := (heeds_iff_holds given).1 heeds
    rw [no_start] at first
    cases first
  next side selector start given first =>
    obtain ⟨_, told, returned⟩ := except_bind_eq_ok.1 returned
    obtain ⟨_, rfl⟩ := writing_eq_ok.1 told
    dsimp only at returned
    split at returned
    · cases returned
    next others some_other =>
      cases returned
      obtain ⟨m, known⟩ := List.exists_mem_of_ne_nil _ some_other
      have key := contains_of_mem_reference known
      refine ⟨List.filter_sublist, fun id => ?_⟩
      rw [List.mem_filter, admits_iff_holds first key, heeds_iff_holds given]

/-- The rooms that are found are those that hold what is looked for, on the side that the constraint
looks at. -/
theorem found_keeps {tag : String} {kept : List String} (returned : c.found l = .ok (tag, kept))
    {id : String} : id ∈ kept ↔ ∃ r ∈ l.rooms, c.Seeks r ∧ c.Heeds l r.id ∧ r.id = id := by
  obtain ⟨v, demanded, returned⟩ := except_bind_eq_ok.1 returned
  obtain ⟨_, told, returned⟩ := except_bind_eq_ok.1 returned
  obtain ⟨_, rfl⟩ := writing_eq_ok.1 told
  obtain ⟨rooms, looked, returned⟩ := except_bind_eq_ok.1 returned
  obtain ⟨kept', sided, returned⟩ := except_bind_eq_ok.1 returned
  cases returned
  obtain ⟨matching, filtered, looked⟩ := except_bind_eq_ok.1 looked
  cases looked
  have seeks {r : Room α} : c.Seeks r ↔
      finds (.text v.plain) (Value.fieldOr c.parameters "target" (.text "any")) r = .ok true := by
    simp [Seeks, demanded]
  rw [(ordered_keeps sided).2, List.mem_map]
  constructor
  · rintro ⟨⟨r, member, rfl⟩, heeds⟩
    obtain ⟨room, sought⟩ := (mem_filterM_iff filtered).1 member
    exact ⟨r, room, seeks.2 sought, heeds, rfl⟩
  · rintro ⟨r, room, sought, heeds, rfl⟩
    exact ⟨⟨r, (mem_filterM_iff filtered).2 ⟨room, seeks.1 sought⟩, rfl⟩, heeds⟩

theorem isEmpty_found {tag : String} {kept : List String} (returned : c.found l = .ok (tag, kept)) :
    kept.isEmpty = true ↔ ¬ ∃ r ∈ l.rooms, c.Seeks r ∧ c.Heeds l r.id := by
  rw [List.isEmpty_iff, List.eq_nil_iff_forall_not_mem]
  simp only [found_keeps returned]
  constructor
  · exact fun none_kept ⟨r, room, sought, heeds⟩ => none_kept r.id ⟨r, room, sought, heeds, rfl⟩
  · exact fun none_there id ⟨r, room, sought, heeds, _⟩ => none_there ⟨r, room, sought, heeds⟩

/-- A constraint that judges by whether rooms are kept passes if the search for them returns and some
room is there, or none, as the judgement wants it. What is said of a failure may be refused, which is a
failure as well. -/
theorem evaluate_of_found (registry : Registry τ α) (plain : c.type ≠ .custom)
    {judge : String × List String → Except Fault (Verdict α)} (check : c.findings l = c.found l >>= judge)
    (wanted : Bool)
    (judged : ∀ found, (∃ v, judge found = .ok v ∧ v.passed = (found.2.isEmpty != wanted)) ∨
      (found.2.isEmpty != wanted) = false ∧ ∃ f, judge found = .error f ∧ f.Pardoned) (t : τ) :
    ∃ result, evaluate registry l c t = .ok result t ∧
      (result.passed = true ↔ (∃ found, c.found l = .ok found) ∧
        (wanted = true ↔ ∃ r ∈ l.rooms, c.Seeks r ∧ c.Heeds l r.id)) := by
  cases looked : c.found l with
  | error f =>
    rw [looked] at check
    obtain ⟨result, done, fails⟩ :=
      evaluate_of_pardoned registry plain check (c.failsOnly_found l f looked) t
    exact ⟨result, done, by simp [fails]⟩
  | ok found =>
    rw [looked] at check
    have empty : found.2.isEmpty = true ↔ ¬ ∃ r ∈ l.rooms, c.Seeks r ∧ c.Heeds l r.id :=
      isEmpty_found looked
    obtain ⟨result, done, passes⟩ : ∃ result, evaluate registry l c t = .ok result t ∧
        result.passed = (found.2.isEmpty != wanted) := by
      obtain ⟨v, judged, passes⟩ | ⟨fails, f, judged, pardoned⟩ := judged found
      · obtain ⟨result, done, same⟩ := evaluate_of_findings registry plain (check.trans judged) t
        exact ⟨result, done, same.trans passes⟩
      · obtain ⟨result, done, failed⟩ :=
          evaluate_of_pardoned registry plain (check.trans judged) pardoned t
        exact ⟨result, done, failed.trans fails.symm⟩
    refine ⟨result, done, ?_⟩
    rw [passes, bne_iff_ne, ne_eq, Bool.eq_iff_iff, empty, and_iff_right ⟨found, rfl⟩,
      not_iff, not_not]
    exact iff_comm

omit [Scalar α] in
/-- A failure is said, or saying it fails. -/
theorem said_cases {vs : List (Value α)} (reason : String) :
    (∃ v, (Verdict.fail reason).said vs = .ok v ∧ v.passed = false) ∨
      false = false ∧ ∃ f, (Verdict.fail reason : Verdict α).said vs = .error f ∧ f.Pardoned := by
  cases said : (Verdict.fail reason : Verdict α).said vs with
  | ok v =>
    obtain ⟨_, rfl⟩ := writing_eq_ok.1 said
    exact .inl ⟨_, rfl, rfl⟩
  | error f => exact .inr ⟨rfl, f, rfl, Verdict.pardoned_said _ _ f said⟩

theorem evaluate_required (registry : Registry τ α) (required : c.type = .required) (t : τ) :
    ∃ result, evaluate registry l c t = .ok result t ∧
      (result.passed = true ↔ (∃ found, c.found l = .ok found) ∧
        ∃ r ∈ l.rooms, c.Seeks r ∧ c.Heeds l r.id) := by
  have check : c.findings l = c.checkRequired l := by
    rw [findings, required]
  refine (evaluate_of_found registry (by simp [required]) check true ?_ t).imp
    fun result given => ⟨given.1, by simpa using given.2⟩
  rintro ⟨tag, _ | ⟨id, rest⟩⟩
  · exact said_cases _
  · exact .inl ⟨.pass, rfl, rfl⟩

theorem evaluate_forbidden (registry : Registry τ α) (forbidden : c.type = .forbidden) (t : τ) :
    ∃ result, evaluate registry l c t = .ok result t ∧
      (result.passed = true ↔ (∃ found, c.found l = .ok found) ∧
        ¬ ∃ r ∈ l.rooms, c.Seeks r ∧ c.Heeds l r.id) := by
  have check : c.findings l = c.checkForbidden l := by
    rw [findings, forbidden]
  refine (evaluate_of_found registry (by simp [forbidden]) check false ?_ t).imp
    fun result given => ⟨given.1, by simpa using given.2⟩
  rintro ⟨tag, _ | ⟨id, rest⟩⟩
  · exact .inl ⟨.pass, rfl, rfl⟩
  · exact said_cases _

/-- Of the rooms that it is given a constraint keeps those that it looks at, in their order. So one that
requires rooms passes, and one that forbids them fails, because of rooms on the side that it looks at;
those are on every side that it asks for unless it asks for both. -/
theorem ordered_heeds (c : Constraint τ α) (l : Layout α) :
    (∀ rooms kept, c.ordered l rooms = .ok kept →
      kept.Sublist rooms ∧ ∀ id, id ∈ kept ↔ id ∈ rooms ∧ c.Heeds l id) ∧
    (¬ (c.Asks .before ∧ c.Asks .after) → ∀ id, c.Heeds l id ↔ c.Meets l id) ∧
    ∀ (registry : Registry τ α) (t : τ),
      (c.type = .required → ∃ result, evaluate registry l c t = .ok result t ∧
        (result.passed = true ↔ (∃ found, c.found l = .ok found) ∧
          ∃ r ∈ l.rooms, c.Seeks r ∧ c.Heeds l r.id)) ∧
      (c.type = .forbidden → ∃ result, evaluate registry l c t = .ok result t ∧
        (result.passed = true ↔ (∃ found, c.found l = .ok found) ∧
          ¬ ∃ r ∈ l.rooms, c.Seeks r ∧ c.Heeds l r.id)) :=
  ⟨fun _ _ => ordered_keeps, heeds_iff_meets, fun registry t =>
    ⟨fun required => evaluate_required registry required t,
      fun forbidden => evaluate_forbidden registry forbidden t⟩⟩

end Constraint

namespace Aisle

def room (id type : String) : Room Float where
  id
  type := .text type
  bounds := ⟨0.0, 0.0, 1.0, 1.0⟩

/-- A gate, a hall behind it and a vault behind the hall. -/
def layout : Layout Float where
  rooms := [room "gate" "door", room "hall" "stone", room "vault" "stone"]
  connections := [Ruins.way "gate" "hall", Ruins.way "hall" "vault"]
  playerStart := ⟨0.0, 0.0⟩
  startRoom := some "gate"

/-- No door between the hall and the vault. -/
def sealed : Constraint Unit Float where
  id := "sealed"
  type := .forbidden
  parameters :=
    .ofTexts [("tag", .text "door"), ("before", .text "vault"), ("after", .text "hall")]

theorem key : (layout.ways false).contains "gate" = true := by decide +kernel

theorem away_gate : layout.Away "gate" 0 :=
  (Layout.find?_distances_iff_away rfl key).1 (by decide +kernel)

theorem away_hall : layout.Away "hall" 1 :=
  (Layout.find?_distances_iff_away rfl key).1 (by decide +kernel)

theorem keeps_gate : sealed.ordered layout ["gate"] = .ok ["gate"] := rfl

theorem asks (side : Constraint.Side) : sealed.Asks side := by
  intro none_given
  cases side <;> cases none_given

theorem gate_of_seeks {r : Room Float} (member : r ∈ layout.rooms) (seeks : sealed.Seeks r) :
    r.id = "gate" := by
  obtain ⟨tag, demanded, sought⟩ := seeks
  cases demanded
  have one_of : r ∈ [room "gate" "door", room "hall" "stone", room "vault" "stone"] := member
  simp only [List.mem_cons, List.not_mem_nil, or_false] at one_of
  rcases one_of with rfl | rfl | rfl
  · rfl
  · cases sought
  · cases sought

end Aisle

namespace Constraint

open Aisle in
/-- The door of the aisle is in front of the vault. -/
theorem ordered_heeds_aisle :
    sealed.ordered layout ["gate"] = .ok ["gate"] ∧ sealed.Heeds layout "gate" := by
  obtain ⟨keeps, _⟩ := ordered_heeds sealed layout
  obtain ⟨_, members⟩ := keeps _ _ keeps_gate
  exact ⟨keeps_gate, ((members "gate").1 List.mem_cons_self).2⟩

open Aisle in
/-- The gate is the one door, and it is in front of the hall. It is kept all the same, and makes the
constraint fail that forbids a door behind the hall. -/
theorem ordered_aisle :
    sealed.ordered layout ["gate"] = .ok ["gate"] ∧
      (¬ ∃ r ∈ layout.rooms, sealed.Seeks r ∧ sealed.Meets layout r.id) ∧
      ∃ result, evaluate (fun _ => none) layout sealed () = .ok result () ∧
        result.passed = false := by
  refine ⟨keeps_gate, ?_, ?_⟩
  · rintro ⟨r, member, seeks, meets⟩
    obtain ⟨n, away, behind⟩ := meets .after (asks .after)
    have after : 1 < n := behind "hall" (by decide) 1 away_hall
    rw [gate_of_seeks member seeks] at away
    have same : some n = some 0 := by
      rw [← (Layout.find?_distances_iff_away rfl key).2 away]
      exact (Layout.find?_distances_iff_away rfl key).2 away_gate
    cases same
    omega
  · have forbidden : sealed.type = .forbidden := rfl
    obtain ⟨result, done, passes⟩ :=
      evaluate_forbidden (l := layout) (fun _ => none) forbidden ()
    have heeds : sealed.Heeds layout "gate" :=
      (((ordered_keeps keeps_gate).2 "gate").1 List.mem_cons_self).2
    have found : ∃ r ∈ layout.rooms, sealed.Seeks r ∧ sealed.Heeds layout r.id :=
      ⟨room "gate" "door", List.mem_cons_self, ⟨.text "door", rfl, rfl⟩, heeds⟩
    exact ⟨result, done, Bool.eq_false_iff.2 fun passed => (passes.1 passed).2 found⟩

end Constraint

end Dungeon
