import Dungeon.Proofs.Ordered
import Dungeon.Proofs.RoomGraph

/-!
# Levels along a path

A progression constraint compares the level of a room with that of the last room before it that has
one. Since the levels are in an order, this compares each room with all rooms before it. The paths are
the canonical ones from the start to the exits.
-/

namespace Dungeon

variable {τ α : Type} [Scalar α]

open Scalar (isUndefined)

/-- The value is a number, and this number of the arithmetic. -/
def Value.Level (v : Value α) (x : α) : Prop := ∃ n, v = .num n ∧ n.toScalar? = some x

/-- The level of the room is its own number, or else, where it has none, the highest number of its
entities. -/
def Room.HasLevel (r : Room α) (key : String) (x : α) : Prop :=
  (Value.field r.metadata key).Level x ∨
    (∀ n, Value.field r.metadata key ≠ .num n) ∧
      (∃ e ∈ r.entities, (Value.field e.metadata key).Level x) ∧
      ∀ e ∈ r.entities, ∀ y, (Value.field e.metadata key).Level y → Scalar.le y x = true

/-- No number that may be a level of the room is undefined. -/
def Room.Defined (r : Room α) (key : String) : Prop :=
  (∀ x, (Value.field r.metadata key).Level x → isUndefined x = false) ∧
    ∀ e ∈ r.entities, ∀ x, (Value.field e.metadata key).Level x → isUndefined x = false

theorem Value.Level.eq {v : Value α} {x y : α} (hx : v.Level x) (hy : v.Level y) : x = y := by
  obtain ⟨n, rfl, given⟩ := hx
  obtain ⟨m, same, given'⟩ := hy
  cases same
  exact Option.some.inj (given.symm.trans given')

namespace Constraint

theorem level_eq_some_iff {v : Value α} {x : α} : level? v = .ok (some x) ↔ v.Level x := by
  unfold level? Value.Level
  split
  next n =>
    unfold Number.toScalar
    cases converted : n.toScalar? with
    | none => simp [converted, Functor.map, Except.map]
    | some y => simp [converted, Functor.map, Except.map]
  next v not_number =>
    simp only [Except.ok.injEq, reduceCtorEq, false_iff]
    rintro ⟨n, rfl, _⟩
    exact not_number n rfl

theorem level_eq_none_iff {v : Value α} : level? v = .ok none ↔ ∀ n, v ≠ .num n := by
  unfold level?
  split
  next n =>
    unfold Number.toScalar
    cases n.toScalar? <;> simp [Functor.map, Except.map]
  next v not_number => simpa using not_number

theorem foldl_max_greatest [Ordered α] {x : α} {xs : List α}
    (defined : ∀ y ∈ x :: xs, isUndefined y = false) :
    xs.foldl Scalar.max x ∈ x :: xs ∧ ∀ y ∈ x :: xs, Scalar.le y (xs.foldl Scalar.max x) = true := by
  induction xs generalizing x with
  | nil =>
    refine ⟨List.mem_cons_self, fun y member => ?_⟩
    rw [List.mem_singleton.1 member]
    exact Ordered.le_refl (defined x List.mem_cons_self)
  | cons z rest ih =>
    have hx := defined x List.mem_cons_self
    have hz := defined z (List.mem_cons_of_mem x List.mem_cons_self)
    have above : Scalar.max x z ∈ [x, z] ∧ Scalar.le x (Scalar.max x z) = true ∧
        Scalar.le z (Scalar.max x z) = true := by
      unfold Scalar.max
      split
      next less => exact ⟨by simp, Ordered.le_of_lt hx hz less, Ordered.le_refl hz⟩
      next not_less => exact ⟨by simp, Ordered.le_refl hx, Ordered.le_of_not_lt hx hz not_less⟩
    obtain ⟨chosen, above_x, above_z⟩ := above
    have shorter : ∀ y ∈ Scalar.max x z :: rest, isUndefined y = false := by
      intro y member
      rcases List.mem_cons.1 member with rfl | member
      · rcases List.mem_pair.1 chosen with same | same <;> rw [same] <;> assumption
      · exact defined y (by simp [member])
    obtain ⟨taken, greatest⟩ := ih shorter
    have top := greatest _ List.mem_cons_self
    rw [List.foldl_cons]
    constructor
    · rcases List.mem_cons.1 taken with same | taken
      · rw [same]
        rcases List.mem_pair.1 chosen with same | same <;> simp [same]
      · simp [taken]
    · intro y member
      rcases List.mem_cons.1 member with rfl | member
      · exact Ordered.le_trans above_x top
      rcases List.mem_cons.1 member with rfl | member
      · exact Ordered.le_trans above_z top
      · exact greatest y (List.mem_cons_of_mem _ member)

/-- The levels that are given for entities are those that they have. -/
theorem mem_levels_iff {es : List (Entity α)} {key : String} {levels : List (Option α)}
    (given : (es.mapM fun e => level? (Value.field e.metadata key)) = .ok levels) {x : α} :
    x ∈ levels.filterMap (·) ↔ ∃ e ∈ es, (Value.field e.metadata key).Level x := by
  have related := forall₂_mapM given
  rw [List.mem_filterMap]
  constructor
  · rintro ⟨found, member, same⟩
    obtain ⟨e, there, level⟩ := exists_of_mem_right related member
    exact ⟨e, there, level_eq_some_iff.1 (same ▸ level)⟩
  · rintro ⟨e, there, level⟩
    obtain ⟨found, member, same⟩ := exists_of_mem_left related there
    rw [level_eq_some_iff.2 level] at same
    cases same
    exact ⟨some x, member, rfl⟩

/-- What the level of a room comes to: there is none, or the level that is given stands for all levels
that the room has. -/
theorem roomLevel_cases [Ordered α] {r : Room α} {key : String} (defined : r.Defined key)
    {level : Option α} (given : roomLevel r key = .ok level) :
    (level = none ∧ ∀ x, ¬ r.HasLevel key x) ∨
      ∃ x, level = some x ∧ isUndefined x = false ∧ r.HasLevel key x ∧
        ∀ y, r.HasLevel key y → Scalar.le x y = true ∧ Scalar.le y x = true := by
  unfold roomLevel at given
  obtain ⟨own, first, given⟩ := except_bind_eq_ok.1 given
  cases own with
  | some x =>
    cases given
    have level := level_eq_some_iff.1 first
    have hx := defined.1 x level
    refine .inr ⟨x, rfl, hx, .inl level, ?_⟩
    rintro y (own | ⟨no_number, _⟩)
    · rw [own.eq level]
      exact ⟨Ordered.le_refl hx, Ordered.le_refl hx⟩
    · obtain ⟨n, number, _⟩ := level
      exact absurd number (no_number n)
  | none =>
    have no_number := level_eq_none_iff.1 first
    obtain ⟨levels, mapped, given⟩ := except_bind_eq_ok.1 given
    have had := fun x => mem_levels_iff (x := x) mapped
    cases entities : levels.filterMap (·) with
    | nil =>
      rw [entities] at given had
      cases given
      refine .inl ⟨rfl, ?_⟩
      rintro x (⟨n, number, _⟩ | ⟨_, among, _⟩)
      · exact no_number n number
      · exact absurd ((had x).2 among) List.not_mem_nil
    | cons x rest =>
      rw [entities] at given had
      cases given
      have all_defined : ∀ y ∈ x :: rest, isUndefined y = false := by
        intro y member
        obtain ⟨e, there, level⟩ := (had y).1 member
        exact defined.2 e there y level
      obtain ⟨taken, greatest⟩ := foldl_max_greatest all_defined
      refine .inr ⟨_, rfl, all_defined _ taken, .inr ⟨no_number, (had _).1 taken, ?_⟩, ?_⟩
      · intro e there y level
        exact greatest y ((had y).2 ⟨e, there, level⟩)
      · rintro y (⟨n, number, _⟩ | ⟨_, among, highest⟩)
        · exact absurd number (no_number n)
        · obtain ⟨e, there, level⟩ := (had _).1 taken
          exact ⟨highest e there _ level, greatest y ((had y).2 among)⟩

end Constraint

namespace Layout

/-- The level of the second room is at least that of the first one, if both have one. -/
def Rises (l : Layout α) (key a b : String) : Prop :=
  ∀ r ∈ l.rooms, ∀ s ∈ l.rooms, r.id = a → s.id = b →
    ∀ x y, r.HasLevel key x → s.HasLevel key y → Scalar.le x y = true

/-- The level of the room is at least so high, if it has one. -/
def Above (l : Layout α) (key : String) (x : α) (id : String) : Prop :=
  ∀ r ∈ l.rooms, r.id = id → ∀ y, r.HasLevel key y → Scalar.le x y = true

omit [Scalar α] in
/-- The last room with an id is the only one. -/
theorem last_room {l : Layout α} (distinct : (l.rooms.map Room.id).Nodup) {id : String}
    (placed : id ∈ l.rooms.map Room.id) :
    ∃ r, l.rooms.reverse.find? (·.id == id) = some r ∧ r ∈ l.rooms ∧ r.id = id ∧
      ∀ s ∈ l.rooms, s.id = id → s = r := by
  obtain ⟨r, member, same⟩ := List.mem_map.1 placed
  cases found : l.rooms.reverse.find? (·.id == id) with
  | none =>
    have other := List.find?_eq_none.1 found r (List.mem_reverse.2 member)
    simp [same] at other
  | some r' =>
    have there : r' ∈ l.rooms := List.mem_reverse.1 (List.mem_of_find?_eq_some found)
    have named : r'.id = id := by simpa using List.find?_some found
    refine ⟨r', rfl, there, named, fun s hs hid => ?_⟩
    exact List.inj_on_of_nodup_map distinct hs there (hid.trans named.symm)

end Layout

namespace Constraint

variable [Ordered α] {l : Layout α} {key : String}

/-- The levels on a path, and the level before them, rise from each room to each later one iff the
check finds no room that is lower than the last one before it. -/
theorem passed_checkLevels_iff (distinct : (l.rooms.map Room.id).Nodup)
    (defined : ∀ r ∈ l.rooms, r.Defined key) {path : List String}
    (placed : ∀ id ∈ path, id ∈ l.rooms.map Room.id) {previous : Option (String × α)}
    (before : ∀ p ∈ previous, isUndefined p.2 = false) {v : Verdict α}
    (given : checkLevels l key previous path = .ok v) :
    v.passed = true ↔
      (∀ p ∈ previous, ∀ id ∈ path, l.Above key p.2 id) ∧ path.Pairwise (l.Rises key) := by
  induction path generalizing previous with
  | nil =>
    cases given
    exact iff_of_true rfl ⟨fun p _ id member => absurd member List.not_mem_nil, .nil⟩
  | cons id rest ih =>
    have placed_rest : ∀ id ∈ rest, id ∈ l.rooms.map Room.id := fun id member =>
      placed id (List.mem_cons_of_mem _ member)
    obtain ⟨r, found, there, named, only⟩ := Layout.last_room distinct (placed id List.mem_cons_self)
    unfold checkLevels at given
    rw [found] at given
    obtain ⟨level, leveled, given⟩ := except_bind_eq_ok.1 given
    rw [List.pairwise_cons]
    rcases roomLevel_cases (defined r there) leveled with
      ⟨rfl, no_level⟩ | ⟨x, rfl, hx, has, alike⟩
    · -- The room is passed over, as nothing is asked of a room without a level.
      have above (y : α) : l.Above key y id := by
        intro s hs hid z level
        exact absurd (only s hs hid ▸ level) (no_level z)
      have rises (id' : String) : l.Rises key id id' := by
        intro s hs s' _ hid _ z z' level
        exact absurd (only s hs hid ▸ level) (no_level z)
      rw [ih placed_rest before given]
      constructor
      · rintro ⟨others, rest_rises⟩
        refine ⟨?_, fun id' _ => rises id', rest_rises⟩
        intro p hp id' member
        rcases List.mem_cons.1 member with rfl | member
        · exact above p.2
        · exact others p hp id' member
      · rintro ⟨all, _, rest_rises⟩
        exact ⟨fun p hp id' member => all p hp id' (List.mem_cons_of_mem _ member), rest_rises⟩
    · have rises (id' : String) : l.Rises key id id' ↔ l.Above key x id' := by
        constructor
        · intro rises s hs hid z level
          exact rises r there s hs named hid x z has level
        · intro above s hs s' hs' hid hid' z z' level level'
          rw [only s hs hid] at level
          exact Ordered.le_trans (alike z level).2 (above s' hs' hid' z' level')
      have go_on : (∀ p ∈ some (id, x), ∀ id' ∈ rest, l.Above key p.2 id') ↔
          ∀ id' ∈ rest, l.Rises key id id' := by
        simp only [Option.mem_some_iff, forall_eq', rises]
      have next : ∀ p ∈ some (id, x), isUndefined p.2 = false := by
        intro p hp
        cases hp
        exact hx
      cases previous with
      | none =>
        rw [ih placed_rest next given, go_on]
        constructor
        · exact fun all => ⟨fun p hp => absurd hp (Option.not_mem_none p), all⟩
        · exact fun all => all.2
      | some p =>
        obtain ⟨earlier, y⟩ := p
        have hy := before (earlier, y) rfl
        dsimp only at given
        by_cases drops : Scalar.lt x y = true
        · rw [if_pos drops] at given
          cases given
          refine iff_of_false Bool.false_ne_true ?_
          rintro ⟨all, _⟩
          have le := all (earlier, y) rfl id List.mem_cons_self r there named x has
          exact (Ordered.lt_iff hx hy).1 drops le
        · rw [if_neg drops] at given
          have le := Ordered.le_of_not_lt hx hy drops
          rw [ih placed_rest next given, go_on]
          constructor
          · rintro ⟨rest_above, rest_rises⟩
            refine ⟨?_, rest_above, rest_rises⟩
            intro p hp id' member s hs hid z level
            cases hp
            rcases List.mem_cons.1 member with rfl | member
            · exact Ordered.le_trans le (alike z (only s hs hid ▸ level)).1
            · have above := (rises id').1 (rest_above id' member)
              exact Ordered.le_trans le (above s hs hid z level)
          · exact fun all => all.2

omit [Ordered α] in
/-- On a path of rooms nothing goes wrong but with a level of one of them. -/
theorem failsOnly_checkLevels_path {path : List String}
    (placed : ∀ id ∈ path, id ∈ l.rooms.map Room.id) (previous : Option (String × α)) :
    FailsOnly (fun f => f = .tooLarge ∧ ∃ r ∈ l.rooms, r.id ∈ path ∧ r.Overlevel key)
      (checkLevels l key previous path) := by
  induction path generalizing previous with
  | nil => exact .ok _
  | cons id rest ih =>
    have later (previous : Option (String × α)) : FailsOnly
        (fun f => f = .tooLarge ∧ ∃ r ∈ l.rooms, r.id ∈ id :: rest ∧ r.Overlevel key)
        (checkLevels l key previous rest) := by
      refine (ih (fun id member => placed id (List.mem_cons_of_mem _ member)) previous).mono ?_
      rintro f ⟨failed, r, there, member, high⟩
      exact ⟨failed, r, there, List.mem_cons_of_mem _ member, high⟩
    unfold checkLevels
    split
    next missing =>
      obtain ⟨r, there, same⟩ := List.mem_map.1 (placed id List.mem_cons_self)
      have other := List.find?_eq_none.1 missing r (List.mem_reverse.2 there)
      simp [same] at other
    next r found =>
      have there : r ∈ l.rooms := List.mem_reverse.1 (List.mem_of_find?_eq_some found)
      have named : r.id = id := by simpa using List.find?_some found
      apply FailsOnly.bind
      · refine (failsOnly_roomLevel r key).mono ?_
        rintro f ⟨failed, high⟩
        exact ⟨failed, r, there, named ▸ List.mem_cons_self, high⟩
      · intro level _
        split
        · exact later _
        · exact later _
        · exact .ite (.ok _) (later _)

end Constraint

/-- The rooms of the layout have different ids, one of them is the start, all connections are between
rooms, and no level is undefined. -/
structure Layout.Charted (l : Layout α) (key start : String) : Prop where
  first : l.startRoom = some start
  placed : start ∈ l.rooms.map Room.id
  distinct : (l.rooms.map Room.id).Nodup
  connected : ∀ c ∈ l.connections, c.fromRoom ∈ l.rooms.map Room.id ∧ c.toRoom ∈ l.rooms.map Room.id
  defined : ∀ r ∈ l.rooms, r.Defined key

namespace Layout.Charted

variable {l : Layout α} {key start : String} (charted : l.Charted key start)
include charted

theorem path_placed {target : String} {path : List String}
    (is_path : IsPath (l.Joins true) start target path) : ∀ id ∈ path, id ∈ l.rooms.map Room.id := by
  apply is_path.chain.induction (fun id => id ∈ l.rooms.map Room.id)
  · rintro a b ⟨c, member, one | ⟨directed, _⟩⟩ _
    · have ends := (charted.connected c member).2
      rwa [(Prod.mk.inj one).2] at ends
    · cases directed
  · intro nonempty
    have head := is_path.first
    rw [List.head?_eq_some_head nonempty] at head
    rw [Option.some.inj head]
    exact charted.placed

theorem shortestPath_eq_some_iff {target : String} {path : List String} :
    (l.ways true).shortestPath start target = some path ↔
      Canonical (l.Joins true) start target path := by
  rw [Adjacency.shortestPath_eq_some_iff Layout.sorted_ways, Layout.leads_ways]
  exact and_iff_right (Layout.contains_ways_iff.2 (.inl charted.placed))

end Layout.Charted

namespace Constraint

variable {l : Layout α} {key start : String}

/-- The check of exits passes iff the levels rise on the canonical path to each of them. -/
theorem passed_checkExits_iff [Ordered α] (charted : l.Charted key start) {exits : List String}
    {v : Verdict α} (given : checkExits l key start exits = .ok v) :
    v.passed = true ↔ ∀ exit ∈ exits, ∃ path, Canonical (l.Joins true) start exit path ∧
      path.Pairwise (l.Rises key) := by
  induction exits with
  | nil =>
    cases given
    exact iff_of_true rfl fun exit member => absurd member List.not_mem_nil
  | cons exit rest ih =>
    rw [List.forall_mem_cons]
    unfold checkExits at given
    cases way : (l.ways true).shortestPath start exit with
    | none =>
      rw [way] at given
      cases given
      refine iff_of_false Bool.false_ne_true ?_
      rintro ⟨⟨path, canonical, _⟩, _⟩
      rw [charted.shortestPath_eq_some_iff.2 canonical] at way
      cases way
    | some path =>
      rw [way] at given
      obtain ⟨found, checked, given⟩ := except_bind_eq_ok.1 given
      have canonical := charted.shortestPath_eq_some_iff.1 way
      have rises := passed_checkLevels_iff charted.distinct charted.defined
        (charted.path_placed canonical.isPath) (fun p hp => absurd hp (Option.not_mem_none p)) checked
      have here : (∃ path, Canonical (l.Joins true) start exit path ∧ path.Pairwise (l.Rises key)) ↔
          found.passed = true := by
        rw [rises]
        constructor
        · rintro ⟨other, canonical', all⟩
          rw [canonical.eq canonical']
          exact ⟨fun p hp => absurd hp (Option.not_mem_none p), all⟩
        · exact fun all => ⟨path, canonical, all.2⟩
      rw [here]
      by_cases passed : found.passed = true
      · rw [if_pos passed] at given
        rw [ih given, and_iff_right passed]
      · rw [if_neg passed] at given
        cases given
        exact iff_of_false passed fun all => passed all.1

theorem failsOnly_checkExits_path (charted : l.Charted key start) (exits : List String) :
    FailsOnly (fun f => f = .tooLarge ∧ ∃ exit ∈ exits, ∃ path,
        Canonical (l.Joins true) start exit path ∧ ∃ r ∈ l.rooms, r.id ∈ path ∧ r.Overlevel key)
      (checkExits l key start exits) := by
  induction exits with
  | nil => exact .ok _
  | cons exit rest ih =>
    unfold checkExits
    split
    · exact .ok _
    next path way =>
      have canonical := charted.shortestPath_eq_some_iff.1 way
      apply FailsOnly.bind
      · refine (failsOnly_checkLevels_path (charted.path_placed canonical.isPath) none).mono ?_
        rintro f ⟨failed, high⟩
        exact ⟨failed, exit, List.mem_cons_self, path, canonical, high⟩
      · intro v _
        apply FailsOnly.ite
        · refine ih.mono ?_
          rintro f ⟨failed, exit', member, high⟩
          exact ⟨failed, exit', List.mem_cons_of_mem _ member, high⟩
        · exact .ok v

/-- A progression constraint on a layout with different rooms, a start, connections between rooms and
no undefined level. It passes iff its key can be written, and there is a path from the start to each
exit, and on the canonical one each room that has a level has at least the level of each earlier room
that has one. In one case there is no result: when a room on such a path has a level that is too large
for the arithmetic. -/
theorem evaluate_progression [Ordered α] (registry : Registry τ α) {c : Constraint τ α}
    (progression : c.type = .progression) (charted : l.Charted c.levelKey start) (t : τ) :
    (∃ result, evaluate registry l c t = .ok result t ∧
      (result.passed = true ↔ (Value.fieldOr c.parameters "key" (.text "difficulty")).writable = true ∧
        ∀ x ∈ l.exits, ∃ path,
          Canonical (l.Joins true) start x.roomId path ∧ path.Pairwise (l.Rises c.levelKey))) ∨
    evaluate registry l c t = .error .tooLarge t ∧ ∃ x ∈ l.exits, ∃ path,
      Canonical (l.Joins true) start x.roomId path ∧
        ∃ r ∈ l.rooms, r.id ∈ path ∧ r.Overlevel c.levelKey := by
  have exit_rooms {id : String} : id ∈ l.exitRooms ↔ ∃ x ∈ l.exits, x.roomId = id := by
    rw [Layout.exitRooms, mem_sortedTexts, List.mem_eraseDups, List.mem_map]
  have plain : c.type ≠ .custom := by
    rw [progression]
    decide
  cases writable : (Value.fieldOr c.parameters "key" (.text "difficulty")).writable with
  | false =>
    have refused : c.findings l = .error .unwritable := by
      rw [findings, progression]
      simp [checkProgression, Value.toText, Value.writing, writable, bind, Except.bind]
    obtain ⟨result, done, fails⟩ := evaluate_of_pardoned registry plain refused pardoned_unwritable t
    exact .inl ⟨result, done, by simp [fails]⟩
  | true =>
  have findings_eq : c.findings l = checkExits l c.levelKey start l.exitRooms := by
    rw [findings, progression]
    simp [checkProgression, Value.toText, Value.writing, writable, bind, Except.bind, charted.first,
      levelKey]
  cases found : checkExits l c.levelKey start l.exitRooms with
  | ok v =>
    obtain ⟨result, done, same⟩ := evaluate_of_findings registry plain (findings_eq.trans found) t
    refine .inl ⟨result, done, ?_⟩
    rw [same, passed_checkExits_iff charted found, and_iff_right rfl]
    simp only [exit_rooms, forall_exists_index, and_imp, forall_apply_eq_imp_iff₂]
  | error f =>
    obtain ⟨rfl, exit, member, high⟩ := failsOnly_checkExits_path charted _ f found
    obtain ⟨x, there, rfl⟩ := exit_rooms.1 member
    exact .inr ⟨evaluate_of_tooLarge registry plain (findings_eq.trans found) t, x, there, high⟩

end Constraint

namespace Tower

def room (id : String) (levels content : List (Value Float)) : Room Float where
  id
  type := .text "stair"
  bounds := ⟨0.0, 0.0, 1.0, 1.0⟩
  metadata := .ofTexts (levels.map fun v => ("difficulty", v))
  entities := content.map fun v =>
    { id := id ++ "_guard", type := .text "guard", position := ⟨0.0, 0.0⟩
      metadata := .ofTexts [("difficulty", v)] }

/-- A stair over a landing without a level to a loft that is as hard as its hardest guard. -/
def layout : Layout Float where
  rooms := [room "porch" [.num (.real 1.0)] [], room "landing" [] [],
    room "loft" [] [.num (.real 0.5), .num (.real 2.0)]]
  connections := [Ruins.way "porch" "landing", Ruins.way "landing" "loft"]
  playerStart := ⟨0.0, 0.0⟩
  startRoom := some "porch"
  exits := [{ position := ⟨0.0, 0.0⟩, roomId := "loft" }]

/-- A single room, as hard as no double is. -/
def summit : Layout Float where
  rooms := [room "summit" [.int (Int.pow 10 309)] []]
  playerStart := ⟨0.0, 0.0⟩
  startRoom := some "summit"
  exits := [{ position := ⟨0.0, 0.0⟩, roomId := "summit" }]

def rising : Constraint Unit Float := { id := "rising", type := .progression }

/-- What is read as a level is defined. -/
def readable (v : Value Float) : Bool :=
  match Constraint.level? v with
  | .ok (some x) => !isUndefined x
  | _ => true

theorem defined_of_readable {l : Layout Float}
    (all : ∀ r ∈ l.rooms, readable (Value.field r.metadata "difficulty") = true ∧
      ∀ e ∈ r.entities, readable (Value.field e.metadata "difficulty") = true) :
    ∀ r ∈ l.rooms, r.Defined "difficulty" := by
  have defined {v : Value Float} (reads : readable v = true) (x : Float) (level : v.Level x) :
      isUndefined x = false := by
    rw [readable, Constraint.level_eq_some_iff.2 level] at reads
    simpa using reads
  intro r member
  obtain ⟨own, others⟩ := all r member
  exact ⟨defined own, fun e there => defined (others e there)⟩

theorem charted : layout.Charted "difficulty" "porch" where
  first := rfl
  placed := by decide
  distinct := by decide
  connected := by decide
  defined := defined_of_readable (by decide +kernel)

theorem charted_summit : summit.Charted "difficulty" "summit" where
  first := rfl
  placed := by decide
  distinct := by decide
  connected := by decide
  defined := defined_of_readable (by decide +kernel)

end Tower

namespace Constraint

open Tower in
/-- The way through the tower gets harder all along. -/
theorem evaluate_progression_tower :
    layout.Charted "difficulty" "porch" ∧ ∃ path,
      Canonical (layout.Joins true) "porch" "loft" path ∧ path.Pairwise (layout.Rises "difficulty") := by
  have passes : (match evaluate (fun _ => none) layout rising () with
      | .ok result _ => result.passed
      | .error _ _ => false) = true := by decide +kernel
  refine ⟨charted, ?_⟩
  rcases evaluate_progression (fun _ => none) (c := rising) rfl charted () with
    ⟨result, done, law⟩ | ⟨fails, _⟩
  · rw [done] at passes
    exact (law.1 passes).2 _ List.mem_cons_self
  · rw [fails] at passes
    cases passes

open Tower in
/-- The summit is all of its path, and yet the constraint does not pass: the evaluation fails. -/
theorem evaluate_progression_tooLarge :
    summit.Charted "difficulty" "summit" ∧
      (∀ x ∈ summit.exits, ∃ path, Canonical (summit.Joins true) "summit" x.roomId path ∧
        path.Pairwise (summit.Rises "difficulty")) ∧
      evaluate (fun _ => none) summit rising () = .error .tooLarge () := by
  have way : (summit.ways true).shortestPath "summit" "summit" = some ["summit"] := by decide +kernel
  have fails : (match evaluate (fun _ => none) summit rising () with
      | .error .tooLarge _ => true
      | _ => false) = true := by decide +kernel
  refine ⟨charted_summit, ?_, ?_⟩
  · intro x member
    rw [List.mem_singleton.1 member]
    exact ⟨["summit"], charted_summit.shortestPath_eq_some_iff.1 way, List.pairwise_singleton _ _⟩
  · cases done : evaluate (fun _ => none) summit rising () with
    | ok result _ =>
      rw [done] at fails
      cases fails
    | error f _ =>
      rw [done] at fails
      cases f <;> first | rfl | cases fails

end Constraint

end Dungeon
