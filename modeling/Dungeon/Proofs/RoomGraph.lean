import Dungeon.Proofs.Constraint.Evaluation
import Dungeon.Proofs.Search.Canonical
import Dungeon.Proofs.Work.Rooted

/-!
# Ways through a layout

Two rooms lie next to each other when a connection joins them, taken one way or both ways. The table of
neighbours says no more and no less, with the neighbours of each room sorted. So a shortest path is
settled by which rooms are joined, and not by the order in which the connections were made; and the
distances, the check of connectedness and the length of the way out all speak of the same paths.
-/

namespace Dungeon

variable {τ α : Type}

namespace Adjacency

theorem leads_link_iff {adj : Adjacency} {a b c d : String} :
    (adj.link a b).Leads c d ↔ adj.Leads c d ∨ (a, b) = (c, d) := by
  rw [Leads, next_link, Prod.mk.injEq]
  by_cases same : a = c
  · simp [same, Leads, eq_comm]
  · simp [same, Leads]

theorem contains_link_iff {adj : Adjacency} {a b c : String} :
    (adj.link a b).contains c = true ↔ adj.contains c = true ∨ a = c := by
  rw [link, Table.adjust, Table.contains, Table.find?_insert]
  by_cases same : a = c
  · simp [same]
  · simp [same, Table.contains]

theorem leads_map_sortedTexts {adj : Adjacency} {a b : String} :
    Leads (adj.map sortedTexts) a b ↔ adj.Leads a b := by
  unfold Leads next
  rw [Table.find?_map]
  cases Table.find? adj a with
  | none => rfl
  | some bs => exact mem_sortedTexts

theorem sorted_map_sortedTexts (adj : Adjacency) : Sorted (adj.map sortedTexts) := by
  intro a
  unfold next
  rw [Table.find?_map]
  cases Table.find? adj a with
  | none => exact .nil
  | some bs => exact sortedTexts_pairwise bs

end Adjacency

/-- A connection leads from the first room to the second one, or back where directions do not count. -/
def Connection.Joins (c : Connection α) (directed : Bool) (a b : String) : Prop :=
  c.way = (a, b) ∨ directed = false ∧ c.way = (b, a)

/-- A connection that counts under the id starts or, where directions do not count, ends there. -/
def Connection.Touches (c : Connection α) (directed : Bool) (id : String) : Prop :=
  c.fromRoom = id ∨ directed = false ∧ c.toRoom = id

namespace Layout

/-- Some connection joins the two rooms. -/
def Joins (l : Layout α) (directed : Bool) (a b : String) : Prop :=
  ∃ c ∈ l.connections, c.Joins directed a b

theorem leads_addWay {directed : Bool} {adj : Adjacency} {c : Connection α} {a b : String} :
    (addWay directed adj c).Leads a b ↔ adj.Leads a b ∨ c.Joins directed a b := by
  unfold addWay Connection.Joins Connection.way
  cases directed with
  | true => simp [Adjacency.leads_link_iff]
  | false =>
    simp only [Bool.false_eq_true, if_false, Adjacency.leads_link_iff, Prod.mk.injEq, true_and]
    tauto

theorem contains_addWay {directed : Bool} {adj : Adjacency} {c : Connection α} {id : String} :
    (addWay directed adj c).contains id = true ↔ adj.contains id = true ∨ c.Touches directed id := by
  unfold addWay Connection.Touches
  cases directed with
  | true => simp [Adjacency.contains_link_iff]
  | false => simp [Adjacency.contains_link_iff, or_assoc]

theorem leads_foldl_addWay {directed : Bool} {cs : List (Connection α)} {adj : Adjacency}
    {a b : String} : (cs.foldl (addWay directed) adj).Leads a b ↔
      adj.Leads a b ∨ ∃ c ∈ cs, c.Joins directed a b := by
  induction cs generalizing adj with
  | nil => simp
  | cons c rest ih => simp [ih, leads_addWay, or_assoc]

theorem contains_foldl_addWay {directed : Bool} {cs : List (Connection α)} {adj : Adjacency}
    {id : String} : (cs.foldl (addWay directed) adj).contains id = true ↔
      adj.contains id = true ∨ ∃ c ∈ cs, c.Touches directed id := by
  induction cs generalizing adj with
  | nil => simp
  | cons c rest ih => simp [ih, contains_addWay, or_assoc]

variable {l : Layout α} {directed : Bool}

theorem sorted_ways : (l.ways directed).Sorted := Adjacency.sorted_map_sortedTexts _

/-- The neighbours in the table are the rooms that a connection joins. -/
theorem leads_ways_iff {a b : String} : (l.ways directed).Leads a b ↔ l.Joins directed a b := by
  -- At first no room has neighbours.
  have none_first : ¬ Adjacency.Leads (Table.ofList (l.rooms.map fun r => (r.id, []))) a b := by
    intro leads
    unfold Adjacency.Leads Adjacency.next at leads
    cases entry : (Table.ofList (l.rooms.map fun r => (r.id, ([] : List String)))).find? a with
    | none => simp [entry] at leads
    | some bs =>
      obtain ⟨r, _, pair⟩ := List.mem_map.1 (Table.mem_of_find?_ofList entry)
      obtain ⟨_, rfl⟩ := Prod.mk.inj pair
      simp [entry] at leads
  rw [ways, Adjacency.leads_map_sortedTexts, leads_foldl_addWay]
  simp [none_first, Joins]

theorem leads_ways : (l.ways directed).Leads = l.Joins directed :=
  funext fun _ => funext fun _ => propext leads_ways_iff

/-- The keys of the table are the rooms and what connections touch. -/
theorem contains_ways_iff {id : String} : (l.ways directed).contains id = true ↔
    id ∈ l.rooms.map Room.id ∨ ∃ c ∈ l.connections, c.Touches directed id := by
  have first : (Table.ofList (l.rooms.map fun r => (r.id, ([] : List String)))).contains id = true ↔
      id ∈ l.rooms.map Room.id := by
    rw [Table.contains, Option.isSome_iff_exists]
    constructor
    · rintro ⟨bs, entry⟩
      obtain ⟨r, member, pair⟩ := List.mem_map.1 (Table.mem_of_find?_ofList entry)
      obtain ⟨rfl, _⟩ := Prod.mk.inj pair
      exact List.mem_map_of_mem member
    · intro room
      exact Table.find?_ofList_isSome (by simpa [Function.comp_def] using room)
  rw [ways, Table.contains, Table.find?_map, Option.isSome_map, ← Table.contains,
    contains_foldl_addWay, first]

theorem joins_of_perm {cs : List (Connection α)} (perm : cs.Perm l.connections) {a b : String} :
    ({ l with connections := cs } : Layout α).Joins directed a b ↔ l.Joins directed a b := by
  simp only [Joins, perm.mem_iff]

theorem contains_ways_of_perm {cs : List (Connection α)} (perm : cs.Perm l.connections)
    (id : String) :
    (({ l with connections := cs } : Layout α).ways directed).contains id =
      (l.ways directed).contains id := by
  rw [Bool.eq_iff_iff, contains_ways_iff, contains_ways_iff]
  simp only [perm.mem_iff]

/-- A shortest path is canonical. There is none when the source is no key or no way leads on to the
target; otherwise it is the path of the fewest rooms that comes first by the code points of the ids. So
the order of the connections does not count. -/
theorem shortestPath_canonical (l : Layout α) (directed : Bool) (source target : String) :
    ((l.ways directed).shortestPath source target = none ↔
      (l.ways directed).contains source = false ∨
        ¬ ∃ path, IsPath (l.Joins directed) source target path) ∧
    (∀ path, (l.ways directed).shortestPath source target = some path ↔
      (l.ways directed).contains source = true ∧
        Canonical (l.Joins directed) source target path) ∧
    ∀ cs, cs.Perm l.connections →
      (({ l with connections := cs } : Layout α).ways directed).shortestPath source target =
        (l.ways directed).shortestPath source target := by
  refine ⟨?_, fun path => ?_, fun cs perm => ?_⟩
  · rw [Adjacency.shortestPath_eq_none_iff, leads_ways, exists_isPath_iff]
  · rw [Adjacency.shortestPath_eq_some_iff sorted_ways, leads_ways]
  · refine Adjacency.shortestPath_congr sorted_ways sorted_ways (contains_ways_of_perm perm source) ?_
    intro a b
    rw [leads_ways_iff, leads_ways_iff, joins_of_perm perm]

end Layout

namespace Ruins

def room (id : String) : Room Float where
  id
  type := .text "ruin"
  bounds := ⟨0.0, 0.0, 1.0, 1.0⟩

def way (a b : String) : Connection Float := ⟨a, b, ⟨0.0, 0.0⟩, ⟨0.0, 0.0⟩⟩

/-- Four rooms in two rings, with a way that is there twice and a way to a pit that is no room, and a
room apart from them. -/
def layout : Layout Float where
  rooms := ["arch", "bridge", "cellar", "den", "eyrie"].map room
  connections := [way "arch" "cellar", way "arch" "bridge", way "cellar" "den", way "bridge" "den",
    way "bridge" "den", way "den" "arch", way "den" "pit"]
  playerStart := ⟨0.0, 0.0⟩
  startRoom := some "arch"
  exits := [{ position := ⟨0.0, 0.0⟩, roomId := "eyrie" },
    { position := ⟨0.0, 0.0⟩, roomId := "den" }]

end Ruins

namespace Layout

theorem shortestPath_canonical_ruins :
    Canonical (Ruins.layout.Joins true) "arch" "pit" ["arch", "bridge", "den", "pit"] ∧
      (({ Ruins.layout with connections := Ruins.layout.connections.reverse } :
        Layout Float).ways true).shortestPath "arch" "pit" = some ["arch", "bridge", "den", "pit"] := by
  obtain ⟨_, found, reordered⟩ := shortestPath_canonical Ruins.layout true "arch" "pit"
  have path : (Ruins.layout.ways true).shortestPath "arch" "pit" =
      some ["arch", "bridge", "den", "pit"] := by decide +kernel
  exact ⟨((found _).1 path).2, (reordered _ (List.reverse_perm _)).trans path⟩

end Layout

namespace Constraint

/-- What a check of connectedness comes to. -/
theorem evaluate_connected [Scalar α] (registry : Registry τ α) (l : Layout α) {c : Constraint τ α}
    (connected : c.type = .connected) (t : τ) :
    ∃ result, evaluate registry l c t = .ok result t ∧
      result.passed = (checkConnected l).passed := by
  apply evaluate_of_findings registry
  · rw [connected]
    decide
  · rw [findings, connected]

/-- A layout with a start room passes as connected iff every room is reached from there. -/
theorem passed_checkConnected_iff {l : Layout α} {start : String} (first : l.startRoom = some start)
    (room : start ∈ l.rooms.map Room.id) : (checkConnected l).passed = true ↔
      ∀ r ∈ l.rooms, Relation.ReflTransGen (l.Joins false) start r.id := by
  have key : (l.ways false).contains start = true := Layout.contains_ways_iff.2 (.inl room)
  have some_room : l.rooms.isEmpty = false := by
    cases rooms : l.rooms with
    | nil => simp [rooms] at room
    | cons r rest => rfl
  have reached (id : String) : ((l.ways false).distances start).contains id = true ↔
      Relation.ReflTransGen (l.Joins false) start id := by
    rw [Adjacency.contains_distances_iff key, Layout.leads_ways]
  unfold checkConnected
  simp only [some_room, first, Bool.false_eq_true, if_false]
  split
  next none_left =>
    refine iff_of_true rfl fun r member => (reached r.id).1 ?_
    simpa using List.filter_eq_nil_iff.1 none_left r member
  next left some_left =>
    refine iff_of_false Bool.false_ne_true fun all => some_left ?_
    refine List.filter_eq_nil_iff.2 fun r member => ?_
    simp [(reached r.id).2 (all r member)]

end Constraint

namespace Layout

variable {l : Layout α} {start : String}

/-- The distances of the exits are those of shortest paths. -/
theorem mem_hops_iff (room : start ∈ l.rooms.map Room.id) {n : Nat} :
    (n ∈ l.exits.filterMap fun x => ((l.ways false).distances start).find? x.roomId) ↔
      ∃ x ∈ l.exits, ∃ path, Shortest (l.Joins false) start x.roomId path ∧ path.length = n + 1 := by
  have key : (l.ways false).contains start = true := contains_ways_iff.2 (.inl room)
  simp only [List.mem_filterMap, Adjacency.find?_distances_iff key, leads_ways]

/-- The way out is as long as the shortest of all paths to an exit, and of no length if there is no
path. -/
theorem pathLength_least (first : l.startRoom = some start) (room : start ∈ l.rooms.map Room.id) :
    (l.pathLength = 0 ∧ ∀ x ∈ l.exits, ¬ ∃ path, IsPath (l.Joins false) start x.roomId path) ∨
      (∃ x ∈ l.exits, ∃ path, IsPath (l.Joins false) start x.roomId path ∧
        path.length = l.pathLength) ∧
      ∀ x ∈ l.exits, ∀ path, IsPath (l.Joins false) start x.roomId path →
        l.pathLength ≤ path.length := by
  have hops {x : Exit α} (exit : x ∈ l.exits) {path : List String}
      (is_path : IsPath (l.Joins false) start x.roomId path) :
      ∃ n, n + 1 ≤ path.length ∧
        n ∈ l.exits.filterMap fun x => ((l.ways false).distances start).find? x.roomId := by
    obtain ⟨least, shortest⟩ := is_path.exists_shortest
    have pos := shortest.isPath.length_pos
    have le := shortest.least path is_path
    have length : least.length = least.length - 1 + 1 := by omega
    exact ⟨_, length ▸ le, (mem_hops_iff room).2 ⟨x, exit, least, shortest, length⟩⟩
  unfold pathLength
  simp only [first]
  split
  next n least =>
    obtain ⟨member, le⟩ := List.min?_eq_some_iff.1 least
    obtain ⟨x, exit, path, shortest, length⟩ := (mem_hops_iff room).1 member
    refine .inr ⟨⟨x, exit, path, shortest.isPath, length⟩, fun y exit path is_path => ?_⟩
    obtain ⟨m, short, member⟩ := hops exit is_path
    have := le m member
    omega
  next none_left =>
    refine .inl ⟨rfl, fun x exit => ?_⟩
    rintro ⟨path, is_path⟩
    obtain ⟨m, _, member⟩ := hops exit is_path
    rw [List.min?_eq_none_iff.1 none_left] at member
    cases member

/-- Distances are those of shortest paths, there are distances to what the source reaches and to
nothing else, and they agree with the paths that are looked for apart. So a layout passes as connected
iff every room has a path from the start room, and the length of the way out is the least number of
rooms on a path from there to an exit. -/
theorem distances_exact [Scalar α] :
    (∀ (adj : Adjacency) (source : String), adj.contains source = true →
      (adj.distances source).keys.Nodup ∧
      (∀ target, target ∈ (adj.distances source).keys ↔
        ∃ path, IsPath adj.Leads source target path) ∧
      (∀ target n, (adj.distances source).find? target = some n ↔
        ∃ path, Shortest adj.Leads source target path ∧ path.length = n + 1) ∧
      (∀ target, (adj.distances source).contains target = true ↔
        ∃ path, adj.shortestPath source target = some path) ∧
      ∀ target n path, (adj.distances source).find? target = some n →
        adj.shortestPath source target = some path → path.length = n + 1) ∧
    ∀ (l : Layout α) (start : String), l.startRoom = some start → start ∈ l.rooms.map Room.id →
      (∀ (τ : Type) (registry : Constraint.Registry τ α) (c : Constraint τ α) (t : τ),
        c.type = .connected → ∃ result, Constraint.evaluate registry l c t = .ok result t ∧
          (result.passed = true ↔
            ∀ r ∈ l.rooms, ∃ path, IsPath (l.Joins false) start r.id path)) ∧
      ((l.pathLength = 0 ∧
          ∀ x ∈ l.exits, ¬ ∃ path, IsPath (l.Joins false) start x.roomId path) ∨
        (∃ x ∈ l.exits, ∃ path, IsPath (l.Joins false) start x.roomId path ∧
          path.length = l.pathLength) ∧
        ∀ x ∈ l.exits, ∀ path, IsPath (l.Joins false) start x.roomId path →
          l.pathLength ≤ path.length) := by
  constructor
  · intro adj source key
    refine ⟨Adjacency.nodup_keys_distances key, fun target => ?_,
      fun target n => Adjacency.find?_distances_iff key, fun target => ?_,
      fun target n path => Adjacency.length_of_shortestPath key⟩
    · rw [Adjacency.mem_keys_distances_iff key, exists_isPath_iff]
    · rw [Adjacency.contains_distances_iff key, Adjacency.exists_shortestPath_iff key]
  · intro l start first room
    refine ⟨fun τ registry c t connected => ?_, pathLength_least first room⟩
    obtain ⟨result, evaluated, passed⟩ := Constraint.evaluate_connected registry l connected t
    refine ⟨result, evaluated, ?_⟩
    rw [passed, Constraint.passed_checkConnected_iff first room]
    simp only [exists_isPath_iff]

/-- The pit is three hops away; no way leads to the eyrie; the den, an exit, lies next to the arch. -/
theorem distances_exact_ruins :
    (∃ path, Shortest (Ruins.layout.ways true).Leads "arch" "pit" path ∧ path.length = 4) ∧
      (¬ ∀ r ∈ Ruins.layout.rooms,
        ∃ path, IsPath (Ruins.layout.Joins false) "arch" r.id path) ∧
      ∃ x ∈ Ruins.layout.exits, ∃ path, IsPath (Ruins.layout.Joins false) "arch" x.roomId path ∧
        path.length = 2 := by
  obtain ⟨adjacencies, layouts⟩ := @distances_exact Float _
  have key : (Ruins.layout.ways true).contains "arch" = true := by decide +kernel
  have hops : ((Ruins.layout.ways true).distances "arch").find? "pit" = some 3 := by decide +kernel
  obtain ⟨_, _, shortest, _⟩ := adjacencies (Ruins.layout.ways true) "arch" key
  have room : "arch" ∈ Ruins.layout.rooms.map Room.id := by decide
  obtain ⟨connected, out⟩ := layouts Ruins.layout "arch" rfl room
  refine ⟨(shortest "pit" 3).1 hops, fun whole => ?_, ?_⟩
  · have fails : (Constraint.checkConnected Ruins.layout).passed = false := by decide +kernel
    obtain ⟨result, evaluated, passed⟩ :=
      connected Unit (fun _ => none) { id := "whole", type := .connected } () rfl
    cases evaluated
    exact absurd (passed.2 whole) (by simp [fails])
  · have two : Ruins.layout.pathLength = 2 := by decide +kernel
    rcases out with ⟨zero, _⟩ | ⟨⟨x, exit, path, is_path, length⟩, _⟩
    · cases two.symm.trans zero
    · exact ⟨x, exit, path, is_path, length.trans two⟩

end Layout

end Dungeon
