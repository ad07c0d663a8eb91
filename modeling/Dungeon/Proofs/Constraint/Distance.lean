import Dungeon.Proofs.RoomGraph

/-!
# Distances between rooms

A distance constraint measures how far the rooms of one selector are from the rooms of another. The
searches start from the rooms of the first one, but what comes out is the least number of hops over all
pairs: the length of a path that is as short as any between two such rooms. The ways lead in both
directions, so it does not matter which selector is asked about first.
-/

namespace Dungeon

theorem IsPath.reverse {β : Type} {R : β → β → Prop} (both_ways : ∀ x y, R x y → R y x) {a b : β}
    {path : List β} (h : IsPath R a b path) : IsPath R b a path.reverse where
  first := by rw [List.head?_reverse, h.last]
  last := by rw [List.getLast?_reverse, h.first]
  chain := List.isChain_reverse.2 (h.chain.imp both_ways)

/-- The nodes of two lists are so many hops apart: there is a path of that length from one of the first
to one of the second, and no shorter one. -/
structure Apart {β : Type} (R : β → β → Prop) (sources targets : List β) (hops : Nat) : Prop where
  path : ∃ a ∈ sources, ∃ b ∈ targets, ∃ path, IsPath R a b path ∧ path.length = hops + 1
  least : ∀ a ∈ sources, ∀ b ∈ targets, ∀ path, IsPath R a b path → hops + 1 ≤ path.length

theorem Apart.reverse {β : Type} {R : β → β → Prop} (both_ways : ∀ x y, R x y → R y x)
    {sources targets : List β} {hops : Nat} (h : Apart R sources targets hops) :
    Apart R targets sources hops where
  path := by
    obtain ⟨a, ha, b, hb, path, is_path, length⟩ := h.path
    refine ⟨b, hb, a, ha, path.reverse, is_path.reverse both_ways, ?_⟩
    rw [List.length_reverse, length]
  least b hb a ha path is_path := by
    rw [← List.length_reverse]
    exact h.least a ha b hb path.reverse (is_path.reverse both_ways)

variable {τ α : Type}

namespace Layout

theorem joins_both_ways {l : Layout α} (a b : String) (joins : l.Joins false a b) :
    l.Joins false b a := by
  obtain ⟨c, member, joins⟩ := joins
  refine ⟨c, member, ?_⟩
  rcases joins with one | ⟨_, other⟩
  · exact .inr ⟨rfl, one⟩
  · exact .inl other

/-- The start and the exits of the layout are in rooms. -/
structure Anchored (l : Layout α) : Prop where
  start : ∀ start ∈ l.startRoom, start ∈ l.rooms.map Room.id
  exits : ∀ x ∈ l.exits, x.roomId ∈ l.rooms.map Room.id

/-- The rooms that a value selects as it is written. One that cannot be written selects none. -/
def selected [Scalar α] (l : Layout α) (v : Value α) : List String :=
  if v.writable then l.select v.plain else []

theorem writable_of_selected [Scalar α] {l : Layout α} {v : Value α} {id : String}
    (selected : id ∈ l.selected v) : v.writable = true := by
  unfold Layout.selected at selected
  split at selected
  next writable => exact writable
  next => cases selected

/-- What a selector selects are rooms. -/
theorem Anchored.select [Scalar α] {l : Layout α} (anchored : l.Anchored) {selector id : String}
    (selected : id ∈ l.select selector) : id ∈ l.rooms.map Room.id := by
  unfold Layout.select at selected
  split at selected
  · have first := Option.mem_toList.1 selected
    exact anchored.start id (Option.mem_filter_iff.1 first).1
  split at selected
  · rw [exitRooms, mem_sortedTexts, List.mem_eraseDups] at selected
    obtain ⟨x, exit, rfl⟩ := List.mem_map.1 selected
    exact anchored.exits x exit
  split at selected
  next named =>
    rw [List.mem_singleton.1 selected]
    obtain ⟨r, found⟩ := Option.isSome_iff_exists.1 named
    have same : r.id = selector := by simpa using List.find?_some found
    exact same ▸ List.mem_map_of_mem (List.mem_of_find?_eq_some found)
  split at selected
  · exact List.map_subset _ List.filter_sublist.subset selected
  · exact List.map_subset _ List.filter_sublist.subset selected

end Layout

/-- So many hops are not less than the lower bound, and not more than the upper one if there is one. -/
def Bounds.Admits [Scalar α] (b : Bounds α) (hops : Nat) : Prop :=
  (Number.real b.low).le (.whole hops) = true ∧
    ∀ high ∈ b.high, (Number.whole hops).le (.real high) = true

namespace Constraint

variable {l : Layout α}

theorem mem_hops_iff {sources targets : List String}
    (rooms : ∀ a ∈ sources, a ∈ l.rooms.map Room.id) {n : Nat} :
    (n ∈ sources.flatMap fun a => targets.filterMap ((l.ways false).distances a).find?) ↔
      ∃ a ∈ sources, ∃ b ∈ targets, ∃ path,
        Shortest (l.Joins false) a b path ∧ path.length = n + 1 := by
  rw [List.mem_flatMap]
  refine exists_congr fun a => and_congr_right fun source => ?_
  have key : (l.ways false).contains a = true := Layout.contains_ways_iff.2 (.inl (rooms a source))
  simp only [List.mem_filterMap, Adjacency.find?_distances_iff key, Layout.leads_ways]

/-- The searches from all rooms of the first list come to the least number of hops. -/
theorem leastHops_eq_some_iff {sources targets : List String}
    (rooms : ∀ a ∈ sources, a ∈ l.rooms.map Room.id) {n : Nat} :
    leastHops (l.ways false) sources targets = some n ↔ Apart (l.Joins false) sources targets n := by
  rw [leastHops, List.min?_eq_some_iff, mem_hops_iff rooms]
  constructor
  · rintro ⟨⟨a, source, b, target, path, shortest, length⟩, least⟩
    refine ⟨⟨a, source, b, target, path, shortest.isPath, length⟩, ?_⟩
    intro a' source' b' target' other is_path
    obtain ⟨best, shortest'⟩ := is_path.exists_shortest
    have pos := shortest'.isPath.length_pos
    have le := shortest'.least other is_path
    have no_less := least (best.length - 1)
      ((mem_hops_iff rooms).2 ⟨a', source', b', target', best, shortest', by omega⟩)
    omega
  · rintro ⟨⟨a, source, b, target, path, is_path, length⟩, least⟩
    constructor
    · refine ⟨a, source, b, target, path, ⟨is_path, ?_⟩, length⟩
      intro other another
      rw [length]
      exact least a source b target other another
    · intro m hops
      obtain ⟨a', source', b', target', other, shortest, length'⟩ := (mem_hops_iff rooms).1 hops
      have no_less := least a' source' b' target' other shortest.isPath
      omega

/-- The constraint has these ends, in their order, and the arithmetic has these bounds for them. -/
structure Limits [Scalar α] (c : Constraint τ α) (least : Number α) (most : Option (Number α))
    (b : Bounds α) : Prop where
  from_least : (c.parameters.named? "min").getD (.num (.real 0.0)) = .num least
  to_most : c.parameters.named? "max" = most.map Value.num
  ordered : ∀ n ∈ most, n.lt least = false
  low : least.toScalar? = some b.low
  high : most.map Number.toScalar? = b.high.map some

variable [Scalar α]

theorem Limits.read {c : Constraint τ α} {least : Number α} {most : Option (Number α)} {b : Bounds α}
    (limits : c.Limits least most b) : Bounds.read c = .ok b := by
  have converted {n : Number α} {x : α} (same : n.toScalar? = some x) : n.toScalar = .ok x := by
    rw [Number.toScalar, same]
  have low : ∃ n, c.readGiven "min" = .ok n ∧ n.getD (.real 0.0) = least := by
    have given := limits.from_least
    unfold readGiven
    cases found : c.parameters.named? "min" with
    | none =>
      rw [found] at given
      exact ⟨none, rfl, Value.num.inj given⟩
    | some v =>
      rw [found] at given
      cases given
      exact ⟨some least, rfl, rfl⟩
  have high : c.readGiven "max" = .ok most := by
    unfold readGiven
    rw [limits.to_most]
    cases most <;> rfl
  obtain ⟨n, first, rfl⟩ := low
  unfold Bounds.read
  rw [readEnds_eq, first, high]
  have ends := limits.high
  cases most with
  | none =>
    have unlimited : b.high = none := Option.map_eq_none_iff.1 ends.symm
    show (do return { low := ← (n.getD (.real 0.0)).toScalar } : Except Fault (Bounds α)) = _
    rw [converted limits.low]
    exact congrArg (fun high => Except.ok (Bounds.mk b.low high)) unlimited.symm
  | some m =>
    obtain ⟨x, limit, same⟩ := Option.map_eq_some_iff.1 ends.symm
    have in_order : ¬ m.lt (n.getD (.real 0.0)) = true := by
      rw [limits.ordered m rfl]
      exact Bool.false_ne_true
    show (if m.lt (n.getD (.real 0.0)) = true then throw _ else do
      return { low := ← (n.getD (.real 0.0)).toScalar, high := some (← m.toScalar) } :
        Except Fault (Bounds α)) = _
    rw [if_neg in_order, converted limits.low, converted same.symm]
    exact congrArg (fun high => Except.ok (Bounds.mk b.low high)) limit.symm

theorem passed_within_iff {b : Bounds α} {hops : Nat} {reason : String} :
    (Verdict.within b (.whole hops) reason).passed = true ↔ b.Admits hops := by
  have contained : (Verdict.within b (.whole hops) reason).passed = b.contain (.whole hops) := by
    unfold Verdict.within
    cases b.contain (.whole hops) <;> rfl
  rw [contained, Bounds.contain, Bool.and_eq_true, Bounds.Admits]
  cases b.high <;> simp

omit [Scalar α] in
theorem demand_eq {c : Constraint τ α} {name : String} {v : Value α}
    (given : c.parameters.named? name = some v) : c.demand name = .ok v := by
  rw [demand, Value.require, given]

/-- A check of a distance passes if there are rooms on both sides that are so far apart. -/
theorem passed_checkDistance {l : Layout α} (anchored : l.Anchored) {c : Constraint τ α}
    {source target : Value α} (origin : c.parameters.named? "from" = some source)
    (goal : c.parameters.named? "to" = some target) (written : source.writable = true)
    (written' : target.writable = true) {b : Bounds α} (bounds : Bounds.read c = .ok b) :
    ∃ v, c.checkDistance l = .ok v ∧ (v.passed = true ↔ ∃ n,
      Apart (l.Joins false) (l.select source.plain) (l.select target.plain) n ∧ b.Admits n) := by
  have told {v : Value α} (writable : v.writable = true) : v.toText = .ok v.plain := by
    simp [Value.toText, Value.writing, writable]
  have hops {n : Nat} :
      leastHops (l.ways false) (l.select source.plain) (l.select target.plain) = some n ↔
        Apart (l.Joins false) (l.select source.plain) (l.select target.plain) n :=
    leastHops_eq_some_iff fun a selected => anchored.select selected
  unfold checkDistance
  rw [demand_eq origin, demand_eq goal, bounds]
  simp only [bind, Except.bind, pure, Except.pure, told written, told written']
  by_cases sources : (l.select source.plain).isEmpty = true
  · rw [if_pos sources]
    refine ⟨_, rfl, iff_of_false Bool.false_ne_true ?_⟩
    rintro ⟨n, apart, _⟩
    obtain ⟨a, source, _⟩ := apart.path
    rw [List.isEmpty_iff.1 sources] at source
    cases source
  rw [if_neg sources]
  by_cases targets : (l.select target.plain).isEmpty = true
  · rw [if_pos targets]
    refine ⟨_, rfl, iff_of_false Bool.false_ne_true ?_⟩
    rintro ⟨n, apart, _⟩
    obtain ⟨a, source, b, target, _⟩ := apart.path
    rw [List.isEmpty_iff.1 targets] at target
    cases target
  rw [if_neg targets]
  cases least : leastHops (l.ways false) (l.select source.plain) (l.select target.plain) with
  | none =>
    refine ⟨_, rfl, iff_of_false Bool.false_ne_true ?_⟩
    rintro ⟨n, apart, _⟩
    rw [hops.2 apart] at least
    cases least
  | some n =>
    refine ⟨_, rfl, passed_within_iff.trans ?_⟩
    constructor
    · exact fun within => ⟨n, hops.1 least, within⟩
    · rintro ⟨m, apart, within⟩
      rw [hops.2 apart] at least
      cases least
      exact within

theorem evaluate_of_checkDistance (registry : Registry τ α) {l : Layout α} {c : Constraint τ α}
    (distance : c.type = .distance) {v : Verdict α} (checked : c.checkDistance l = .ok v) (t : τ) :
    ∃ result, evaluate registry l c t = .ok result t ∧ result.passed = v.passed := by
  apply evaluate_of_findings registry
  · rw [distance]
    decide
  · rw [findings, distance]
    exact checked

/-- A check of a distance fails over a selector that cannot be written. -/
theorem checkDistance_unwritable {l : Layout α} {c : Constraint τ α} {source target : Value α}
    (origin : c.parameters.named? "from" = some source)
    (goal : c.parameters.named? "to" = some target)
    (unwritable : ¬(source.writable = true ∧ target.writable = true)) :
    c.checkDistance l = .error .unwritable := by
  unfold checkDistance
  rw [demand_eq origin, demand_eq goal]
  cases writable : source.writable with
  | false => simp [Value.toText, Value.writing, writable, bind, Except.bind]
  | true =>
    have refused : target.writable = false := by simpa [writable] using unwritable
    simp [Value.toText, Value.writing, writable, refused, bind, Except.bind]

/-- A constraint whose selectors are given has a result. -/
theorem passed_evaluateDistance (registry : Registry τ α) {l : Layout α} (anchored : l.Anchored)
    {c : Constraint τ α} (distance : c.type = .distance) {source target : Value α}
    (origin : c.parameters.named? "from" = some source)
    (goal : c.parameters.named? "to" = some target) {b : Bounds α} (bounds : Bounds.read c = .ok b)
    (t : τ) :
    ∃ result, evaluate registry l c t = .ok result t ∧ (result.passed = true ↔ ∃ n,
      Apart (l.Joins false) (l.selected source) (l.selected target) n ∧ b.Admits n) := by
  by_cases written : source.writable = true ∧ target.writable = true
  · obtain ⟨v, checked, passes⟩ :=
      passed_checkDistance anchored origin goal written.1 written.2 bounds
    obtain ⟨result, done, same⟩ := evaluate_of_checkDistance registry distance checked t
    refine ⟨result, done, ?_⟩
    rw [same, passes, Layout.selected, Layout.selected, if_pos written.1, if_pos written.2]
  · have failed : c.findings l = .error .unwritable := by
      rw [findings, distance]
      exact checkDistance_unwritable origin goal written
    obtain ⟨result, done, fails⟩ := evaluate_of_pardoned registry (by simp [distance]) failed
      pardoned_unwritable t
    refine ⟨result, done, iff_of_false (by simp [fails]) ?_⟩
    rintro ⟨n, apart, _⟩
    obtain ⟨a, selected, b, selected', _⟩ := apart.path
    exact written ⟨Layout.writable_of_selected selected, Layout.writable_of_selected selected'⟩

/-- A distance constraint on a layout whose start and exits are in rooms. It has a result, and passes
iff both selectors mean some room, ways in both directions join a room of the one to a room of the
other, and the least number of hops over all such pairs is within the bounds. So it passes from the
one to the other iff it passes back. -/
theorem evaluate_distance (registry : Registry τ α) {l : Layout α} (anchored : l.Anchored)
    {c : Constraint τ α} (distance : c.type = .distance) {source target : Value α}
    (origin : c.parameters.named? "from" = some source)
    (goal : c.parameters.named? "to" = some target) {least : Number α} {most : Option (Number α)}
    {b : Bounds α} (limits : c.Limits least most b) (t : τ) :
    ∃ result, evaluate registry l c t = .ok result t ∧
      (result.passed = true ↔
        l.selected source ≠ [] ∧ l.selected target ≠ [] ∧
          ∃ n, Apart (l.Joins false) (l.selected source) (l.selected target) n ∧ b.Admits n) ∧
      ∀ back : Constraint τ α, back.type = .distance →
        back.parameters.named? "from" = some target → back.parameters.named? "to" = some source →
        (∀ name ∈ ["min", "max"], back.parameters.named? name = c.parameters.named? name) →
        ∃ result', evaluate registry l back t = .ok result' t ∧ result'.passed = result.passed := by
  obtain ⟨result, done, passes⟩ :=
    passed_evaluateDistance registry anchored distance origin goal limits.read t
  refine ⟨result, done, ?_, ?_⟩
  · rw [passes]
    constructor
    · rintro ⟨n, apart, admits⟩
      obtain ⟨a, selected, b, selected', _⟩ := apart.path
      exact ⟨List.ne_nil_of_mem selected, List.ne_nil_of_mem selected', n, apart, admits⟩
    · exact fun ⟨_, _, within⟩ => within
  · intro back distance' origin' goal' ends
    have limits' : back.Limits least most b := by
      constructor
      · rw [ends "min" (by simp)]
        exact limits.from_least
      · rw [ends "max" (by simp)]
        exact limits.to_most
      · exact limits.ordered
      · exact limits.low
      · exact limits.high
    obtain ⟨result', done', passes'⟩ :=
      passed_evaluateDistance registry anchored distance' origin' goal' limits'.read t
    refine ⟨result', done', ?_⟩
    rw [Bool.eq_iff_iff, passes, passes']
    constructor
    · rintro ⟨n, apart, admits⟩
      exact ⟨n, apart.reverse Layout.joins_both_ways, admits⟩
    · rintro ⟨n, apart, admits⟩
      exact ⟨n, apart.reverse Layout.joins_both_ways, admits⟩

namespace Crossing

/-- One to three hops from some rooms of the ruins to others. -/
def crossing (source target : String) : Constraint Unit Float where
  id := "crossing"
  type := .distance
  parameters :=
    .ofTexts [("from", .text source), ("to", .text target), ("min", .int 1), ("max", .int 3)]

def bounds : Bounds Float := ⟨Float.ofInt 1, some (Float.ofInt 3)⟩

theorem toScalar?_whole {n : Int} (finite : (Float.ofInt n).isFinite = true) :
    (Number.whole n).toScalar? = some (Float.ofInt n) := if_pos finite

theorem limits (source target : String) :
    (crossing source target).Limits (.whole 1) (some (.whole 3)) bounds where
  from_least := rfl
  to_most := rfl
  ordered n member := by
    cases member
    rfl
  low := toScalar?_whole (by decide +kernel)
  high := congrArg some (toScalar?_whole (by decide +kernel))

/-- The nearest exit is next to the start. -/
theorem apart : Apart (Ruins.layout.Joins false) ["arch"] ["den", "eyrie"] 1 where
  path := by
    refine ⟨"arch", by decide, "den", by decide, ["arch", "den"], ⟨rfl, rfl, ?_⟩, rfl⟩
    apply List.IsChain.cons_cons
    · exact ⟨Ruins.way "den" "arch", by simp [Ruins.layout], .inr ⟨rfl, rfl⟩⟩
    · exact .singleton _
  least a source b target path is_path := by
    rcases is_path.cases_last with ⟨rfl, _⟩ | ⟨c, before, rfl, shorter, _⟩
    · rw [List.mem_singleton.1 source] at target
      exact absurd target (by decide)
    · have pos := shorter.length_pos
      rw [List.length_append, List.length_singleton]
      omega

end Crossing

open Crossing in
/-- The exits of the ruins are near enough to the start, and the start to the exits. -/
theorem evaluate_distance_ruins :
    ∃ result, evaluate (fun _ => none) Ruins.layout (crossing "start" "exit") () = .ok result () ∧
      result.passed = true ∧
      ∃ result', evaluate (fun _ => none) Ruins.layout (crossing "exit" "start") () =
        .ok result' () ∧ result'.passed = true := by
  have anchored : Ruins.layout.Anchored := ⟨by decide, by decide⟩
  have start : Ruins.layout.selected (.text "start") = ["arch"] := by decide
  have exits : Ruins.layout.selected (.text "exit") = ["den", "eyrie"] := by decide +kernel
  have admits : bounds.Admits 1 := ⟨by decide +kernel, fun high member => by
    cases member
    decide +kernel⟩
  have origin : (crossing "start" "exit").parameters.named? "from" = some (.text "start") := rfl
  have goal : (crossing "start" "exit").parameters.named? "to" = some (.text "exit") := rfl
  obtain ⟨result, done, passes, exchange⟩ :=
    evaluate_distance (fun _ => none) anchored rfl origin goal (limits _ _) ()
  rw [start, exits] at passes
  have passed := passes.2 ⟨List.cons_ne_nil _ _, List.cons_ne_nil _ _, 1, apart, admits⟩
  have same_ends : ∀ name ∈ ["min", "max"], (crossing "exit" "start").parameters.named? name =
      (crossing "start" "exit").parameters.named? name := by
    intro name member
    rcases List.mem_pair.1 member with rfl | rfl <;> rfl
  obtain ⟨result', done', same⟩ := exchange (crossing "exit" "start") rfl rfl rfl same_ends
  exact ⟨result, done, passed, result', done', same.trans passed⟩

end Constraint

end Dungeon
