import Dungeon.Proofs.Work.Building
import Dungeon.Proofs.Work.Furnishing

/-!
# What each kind of node adds

`Node.Contributes` lists by kind of node what a contribution of it looks like. Whatever work succeeds
on a rooted draft adds a contribution of this form. It puts content and exits only into rooms that are
there, it leaves the draft rooted, and so are all fragments that leave the node.
-/

namespace Dungeon

variable {σ α : Type}

/-- The contribution is one that the node may add; `counts` says which numbers a range allows. -/
def Node.Contributes [Scalar α] (counts : CountRange → Int → Prop) (n : Node α)
    (k : Contribution α) : Prop :=
  match n.data with
  | .start _ => ∃ area offset, k = { start := some (area, offset) }
  | .output d => ∃ position roomId, k = { exits := [{
      position, roomId, type := d.exitType, requiresKey := d.requiresKey, nodeId := some n.id }] }
  | .room d => k.Builds counts n d.plan [n.id]
  | .roomChain d => ∃ range m, d.count = .proper range ∧ counts range (m : Nat) ∧
      k.Builds counts n d.plan (Placement.roomIds n.id m)
  | .spawnPoint d => ∃ roomId es, Puts counts n d.count d.entityType [] es ∧
      k = .ofSpawned roomId es
  | .lootDrop d => k = {} ∨ ∃ roomId es,
      Puts counts n d.count (.text "loot") (.ofTexts [("lootTable", d.lootTable)]) es ∧
        k = .ofEntities roomId es
  | .encounter d => ∃ level, Job.level? d.difficulty = some level ∧ ∃ roomId es,
      Puts counts n d.count (.text "enemy") (Job.encounterMetadata d level) es ∧
        k = .ofEntities roomId es
  | .prop d => ∃ roomId es,
      Puts counts n d.count (.text "prop") (.ofTexts [("propType", d.propType)]) es ∧
        k = .ofEntities roomId es
  | .branch _ | .merge _ | .randomSelect _ | .sequence _ | .condition _ | .distribution _ => k = {}

section
variable {counts counts' : CountRange → Int → Prop} {n : Node α}

theorem Room.Fits.mono {plan : RoomPlan α} {r : Room α} (h : r.Fits counts n plan)
    (weaker : ∀ range m, counts range m → counts' range m) : r.Fits counts' n plan where
  source := h.source
  type := h.type
  tags := h.tags
  shape := h.shape
  doors := by
    obtain ⟨range, m, proper, counted, named⟩ := h.doors
    exact ⟨range, m, proper, weaker range m counted, named⟩
  empty := h.empty

theorem Contribution.Builds.mono {plan : RoomPlan α} {ids : List String} {k : Contribution α}
    (h : k.Builds counts n plan ids) (weaker : ∀ range m, counts range m → counts' range m) :
    k.Builds counts' n plan ids :=
  { h with fits := fun r member => (h.fits r member).mono weaker }

theorem Puts.mono [Scalar α] {count : Setting CountRange α} {type : Value α}
    {metadata : Metadata α} {es : List (Entity α)} (h : Puts counts n count type metadata es)
    (weaker : ∀ range m, counts range m → counts' range m) :
    Puts counts' n count type metadata es where
  counted := by
    obtain ⟨range, m, proper, counted, ids⟩ := h.counted
    exact ⟨range, m, proper, weaker range m counted, ids⟩
  alike := h.alike

theorem Node.Contributes.mono [Scalar α] {k : Contribution α} (h : n.Contributes counts k)
    (weaker : ∀ range m, counts range m → counts' range m) : n.Contributes counts' k := by
  unfold Node.Contributes at h ⊢
  cases data : n.data with
  | start | output | branch | merge | randomSelect | sequence | condition | distribution =>
    rw [data] at h
    exact h
  | room =>
    rw [data] at h
    exact Contribution.Builds.mono h weaker
  | roomChain =>
    rw [data] at h
    obtain ⟨range, m, proper, counted, builds⟩ := h
    exact ⟨range, m, proper, weaker range m counted, builds.mono weaker⟩
  | spawnPoint | prop =>
    rw [data] at h
    obtain ⟨roomId, es, puts, same⟩ := h
    exact ⟨roomId, es, puts.mono weaker, same⟩
  | lootDrop =>
    rw [data] at h
    rcases h with nothing | ⟨roomId, es, puts, same⟩
    · exact .inl nothing
    · exact .inr ⟨roomId, es, puts.mono weaker, same⟩
  | encounter =>
    rw [data] at h
    obtain ⟨level, named, roomId, es, puts, same⟩ := h
    exact ⟨level, named, roomId, es, puts.mono weaker, same⟩

/-- Nodes other than room nodes place no rooms and warn of nothing. -/
theorem Node.Contributes.unbuilt [Scalar α] {k : Contribution α} (h : n.Contributes counts k)
    (room : n.kind ≠ .room) (chain : n.kind ≠ .roomChain) : k.rooms = [] ∧ k.warnings = [] := by
  unfold Node.Contributes at h
  unfold Node.kind at room chain
  cases data : n.data with
  | room =>
    rw [data] at room
    exact absurd rfl room
  | roomChain =>
    rw [data] at chain
    exact absurd rfl chain
  | start | output =>
    rw [data] at h
    obtain ⟨_, _, rfl⟩ := h
    exact ⟨rfl, rfl⟩
  | spawnPoint | prop =>
    rw [data] at h
    obtain ⟨_, _, _, rfl⟩ := h
    exact ⟨rfl, rfl⟩
  | lootDrop =>
    rw [data] at h
    obtain rfl | ⟨_, _, _, rfl⟩ := h <;> exact ⟨rfl, rfl⟩
  | encounter =>
    rw [data] at h
    obtain ⟨_, _, _, _, _, rfl⟩ := h
    exact ⟨rfl, rfl⟩
  | branch | merge | randomSelect | sequence | condition | distribution =>
    rw [data] at h
    subst h
    exact ⟨rfl, rfl⟩

/-- A node adds no rooms, or it is a room node or a chain node and builds them. -/
theorem Node.Contributes.rooms_cases [Scalar α] {k : Contribution α} (h : n.Contributes counts k) :
    k.rooms = [] ∨ (n.kind = .room ∧ ∃ plan, k.Builds counts n plan [n.id]) ∨
      (n.kind = .roomChain ∧ ∃ plan m, k.Builds counts n plan (Placement.roomIds n.id m)) := by
  by_cases room : n.kind = .room
  · refine .inr (.inl ⟨room, ?_⟩)
    unfold Node.kind at room
    unfold Node.Contributes at h
    cases data : n.data with
    | room d =>
      rw [data] at h
      exact ⟨d.plan, h⟩
    | _ =>
      rw [data] at room
      cases room
  · by_cases chain : n.kind = .roomChain
    · refine .inr (.inr ⟨chain, ?_⟩)
      unfold Node.kind at chain
      unfold Node.Contributes at h
      cases data : n.data with
      | roomChain d =>
        rw [data] at h
        obtain ⟨_, m, _, _, builds⟩ := h
        exact ⟨d.plan, m, builds⟩
      | _ =>
        rw [data] at chain
        cases chain
    · exact .inl (h.unbuilt room chain).1

/-- A node adds rooms without content. -/
theorem Node.Contributes.bare_rooms [Scalar α] {k : Contribution α}
    (h : n.Contributes counts k) : ∀ r ∈ k.rooms, r.entities = [] := by
  intro r member
  rcases h.rooms_cases with none_added | ⟨_, plan, builds⟩ | ⟨_, plan, m, builds⟩
  · rw [none_added] at member
    cases member
  · exact (builds.fits r member).empty
  · exact (builds.fits r member).empty

/-- Content adds nothing but entities and spawn points. -/
theorem Node.Contributes.plain_of_content [Scalar α] {k : Contribution α}
    (h : n.Contributes counts k) (content : n.kind.isContent = true) :
    k.plain = {} := by
  unfold Node.Contributes at h
  unfold Node.kind at content
  cases data : n.data with
  | spawnPoint =>
    rw [data] at h
    obtain ⟨_, _, _, rfl⟩ := h
    rfl
  | lootDrop =>
    rw [data] at h
    rcases h with rfl | ⟨_, _, _, rfl⟩ <;> rfl
  | encounter =>
    rw [data] at h
    obtain ⟨_, _, _, _, _, rfl⟩ := h
    rfl
  | prop =>
    rw [data] at h
    obtain ⟨_, _, _, rfl⟩ := h
    rfl
  | start | output | room | roomChain | branch | merge | randomSelect | sequence | condition
  | distribution =>
    rw [data] at content
    cases content

end

namespace Job

open Work

variable {d : Draft α} (j : Job α)

/-- The fragment leaves through some port. -/
def Leaves (out : Outcome α) (f : Fragment α) : Prop := ∃ port, (out.find? port).join = some f

theorem not_leaves_empty {f : Fragment α} : ¬ Leaves (Table.empty : Outcome α) f := by
  rintro ⟨port, left⟩
  simp at left

theorem entry_of_leaves {pairs : List (String × Option (Fragment α))} {f : Fragment α}
    (h : Leaves (Table.ofList pairs) f) : ∃ port, (port, some f) ∈ pairs := by
  obtain ⟨port, left⟩ := h
  exact ⟨port, Table.mem_of_find?_ofList (Option.join_eq_some_iff.1 left)⟩

theorem eq_of_leaves_everywhere {f g : Fragment α} (h : Leaves (j.everywhere f) g) : g = f := by
  obtain ⟨port, entry⟩ := entry_of_leaves h
  obtain ⟨q, _, pair⟩ := List.mem_map.1 entry
  cases pair
  rfl

theorem eq_of_leaves_only {f g : Fragment α} {chosen : String} (h : Leaves (j.only f chosen) g) :
    g = f := by
  obtain ⟨port, entry⟩ := entry_of_leaves h
  obtain ⟨q, _, pair⟩ := List.mem_map.1 entry
  obtain ⟨_, left⟩ := Prod.mk.inj pair
  split at left
  · exact (Option.some.inj left).symm
  · cases left

variable [Scalar α]

/-- What leaves a branch has the anchors of what came to it. -/
theorem anchors_of_mem_paths {f g : Fragment α} {weights : List α} {port : String}
    (h : (port, g) ∈ j.paths f weights) : g.anchor = f.anchor ∧ g.joined = f.joined := by
  obtain ⟨_, _, pair⟩ := List.mem_map.1 h
  cases pair
  exact ⟨rfl, rfl⟩

/-- What a node with this outcome and this contribution has done to a rooted draft. -/
structure Performed (counts : CountRange → Int → Prop) (j : Job α) (d : Draft α) (out : Outcome α)
    (k : Contribution α) : Prop where
  contributes : j.node.Contributes counts k
  homes : ∀ x ∈ k.content, x.1 ∈ d.ids
  exits : ∀ x ∈ k.exits, x.roomId ∈ d.ids
  rooted : (d.gain k).Rooted
  leaving : ∀ f, Leaves out f → f.RootedIn (d.gain k)

section
open Draft
variable {counts : CountRange → Int → Prop} {j : Job α} {out : Outcome α} {k : Contribution α}

/-- What a node has done to a draft it has done to all that differ in content alone. -/
theorem Performed.of_plain (done : j.Performed counts d out k) {e : Draft α}
    (same : d.plain = e.plain) : j.Performed counts e out k where
  contributes := done.contributes
  homes := ids_eq_of_plain same ▸ done.homes
  exits := ids_eq_of_plain same ▸ done.exits
  rooted := done.rooted.of_plain (by rw [plain_gain, same, plain_gain])
  leaving := by
    intro f left
    have there := done.leaving f left
    refine ⟨there.first, there.distinct, ?_⟩
    have ids : (d.gain k).ids = (e.gain k).ids := by
      rw [ids_gain, ids_gain, ids_eq_of_plain same]
    exact ids ▸ there.inside

/-- A node that only passes fragments on. -/
theorem Performed.of_passing (rooted : d.Rooted) (contributes : j.node.Contributes counts {})
    (leaving : ∀ f, Leaves out f → f.RootedIn d) : j.Performed counts d out {} where
  contributes := contributes
  homes := by simp
  exits := by simp
  rooted := by simpa using rooted
  leaving := by simpa using leaving

/-- A node that puts entities into a room. -/
theorem Performed.of_content (rooted : d.Rooted) {roomId : String} (there : roomId ∈ d.ids)
    {es : List (Entity α)} {spawnPoints : List (SpawnPoint α)}
    (same : k = { content := es.map fun e => (roomId, e), spawnPoints })
    (contributes : j.node.Contributes counts k) : j.Performed counts d Table.empty k where
  contributes := contributes
  homes := by simp +contextual [same, there]
  exits := by simp [same]
  rooted := by simpa [same] using rooted.gain_content rfl rfl rfl
  leaving := fun f left => absurd left not_leaves_empty

/-- A node that builds rooms. -/
theorem Performed.of_builds {plan : RoomPlan α} {ids : List String} {f : Fragment α}
    (builds : k.Builds counts j.node plan ids) (rooted : (d.gain k).Rooted)
    (there : f.RootedIn (d.gain k)) (contributes : j.node.Contributes counts k) :
    j.Performed counts d (j.everywhere f) k where
  contributes := contributes
  homes := by simp [builds.content]
  exits := by simp [builds.exits]
  rooted := rooted
  leaving := fun g left => j.eq_of_leaves_everywhere left ▸ there

end

variable [Source σ α]

/-- Work that merges what came and then only chooses where it goes. -/
theorem asks_branch (data : BranchData α) {incoming : List (Fragment α)}
    (arrived : ∀ f ∈ incoming, f.RootedIn d) :
    Asks d (j.branch data incoming : Work σ α (Outcome α)) fun out =>
      ∀ f, Leaves out f → f.RootedIn d := by
  refine .ask (j.asks_single _) fun f merged => .ask (j.asks_pathWeights _) fun weights _ => ?_
  have there := Fragment.rootedIn_merge merged arrived
  have path {port : String} {g : Fragment α}
      (found : (Table.ofList (j.paths f weights)).find? port = some g) : g.RootedIn d := by
    obtain ⟨anchor, joined⟩ := j.anchors_of_mem_paths (Table.mem_of_find?_ofList found)
    exact there.of_eq anchor joined
  refine .ite (fun _ => .ask (.draw _) fun i _ => .pure ⟨rfl, ?_⟩) fun _ => .pure ⟨rfl, ?_⟩
  · rintro g ⟨port, left⟩
    rw [Table.find?, Table.lookup_map port fun id f => if id = j.portId i then some f else none] at left
    obtain ⟨h, found, chosen⟩ := Option.map_eq_some_iff.1 (Option.join_eq_some_iff.1 left)
    split at chosen
    · cases chosen
      exact path found
    · cases chosen
  · rintro g ⟨port, left⟩
    rw [Table.find?_map] at left
    obtain ⟨h, found, chosen⟩ := Option.map_eq_some_iff.1 (Option.join_eq_some_iff.1 left)
    cases chosen
    exact path found

theorem asks_randomSelect (data : RandomSelectData α) {incoming : List (Fragment α)}
    (arrived : ∀ f ∈ incoming, f.RootedIn d) :
    Asks d (j.randomSelect data incoming : Work σ α (Outcome α)) fun out =>
      ∀ f, Leaves out f → f.RootedIn d := by
  refine .ask (j.asks_single _) fun f merged => .ask (j.asks_pathWeights _) fun weights _ => ?_
  refine .ask (.draw _) fun i _ => .pure ⟨rfl, fun g left => ?_⟩
  exact (Fragment.rootedIn_merge merged arrived).of_eq (by rw [j.eq_of_leaves_only left]; rfl)
    (by rw [j.eq_of_leaves_only left]; rfl)

omit [Source σ α] in
theorem asks_condition (data : ConditionData α) {incoming : List (Fragment α)}
    (arrived : ∀ f ∈ incoming, f.RootedIn d) :
    Asks d (j.condition data incoming : Work σ α (Outcome α)) fun out =>
      ∀ f, Leaves out f → f.RootedIn d := by
  refine .ask (j.asks_single _) fun f merged => .ask (.lift _) fun name _ => ?_
  split
  · exact .failOver j _ _
  · split
    · refine .pure ⟨rfl, fun g left => ?_⟩
      exact j.eq_of_leaves_only left ▸ Fragment.rootedIn_merge merged arrived
    · split
      · exact .failOver j _ _
      · intro s v t done
        cases done

theorem asks_distribution (data : DistributionData α) {incoming : List (Fragment α)}
    (arrived : ∀ f ∈ incoming, f.RootedIn d) :
    Asks d (j.distribution data incoming : Work σ α (Outcome α)) fun out =>
      ∀ f, Leaves out f → f.RootedIn d := by
  refine .ask (j.asks_single _) fun f merged => .ask (.lift _) fun reversed _ => ?_
  refine .ite (fun _ => .failOver_bind j _ _) fun _ => .ask (.blame j (.draw _)) fun unit _ => ?_
  refine .ask (.lift _) fun x _ => .ask (.lift _) fun name _ => .pure ⟨rfl, fun g left => ?_⟩
  exact (Fragment.rootedIn_merge merged arrived).of_eq (by rw [j.eq_of_leaves_everywhere left]; rfl)
    (by rw [j.eq_of_leaves_everywhere left]; rfl)

omit [Source σ α] in
theorem asks_merge {incoming : List (Fragment α)} (arrived : ∀ f ∈ incoming, f.RootedIn d) :
    Asks d (j.merge incoming : Work σ α (Outcome α)) fun out =>
      ∀ f, Leaves out f → f.RootedIn d := by
  refine .ask (j.asks_single _) fun f merged => .pure ⟨rfl, fun g left => ?_⟩
  exact j.eq_of_leaves_everywhere left ▸ Fragment.rootedIn_merge merged arrived

/-- The work of a node on a rooted draft, with rooted fragments. -/
theorem adds_perform (rooted : d.Rooted) {incoming : List (Fragment α)}
    (arrived : ∀ f ∈ incoming, f.RootedIn d) :
    Adds d (j.perform incoming : Work σ α (Outcome α)) fun out k =>
      j.Performed (CountRange.Draws σ) d out k := by
  have passing {w : Work σ α (Outcome α)} (contributes : j.node.Contributes (CountRange.Draws σ) {})
      (asks : Asks d w fun out => ∀ f, Leaves out f → f.RootedIn d) :
      Adds d w fun out k => j.Performed (CountRange.Draws σ) d out k := by
    refine Adds.mono asks fun out k ⟨same, leaving⟩ => ?_
    subst same
    exact .of_passing rooted contributes leaving
  unfold perform
  cases kind : j.node.data with
  | start data =>
    refine (j.adds_start data).mono fun out k ⟨⟨area, offset, same⟩, everywhere⟩ => ?_
    exact {
      contributes := by rw [Node.Contributes, kind]; exact ⟨area, offset, same⟩
      homes := by simp [same]
      exits := by simp [same]
      rooted := by simpa [same] using rooted.gain_content rfl rfl rfl
      leaving := fun f left =>
        j.eq_of_leaves_everywhere (everywhere ▸ left) ▸ Fragment.rootedIn_empty _ }
  | output data =>
    refine (j.adds_output data incoming).mono fun out k ⟨kept, position, roomId, there, same⟩ => ?_
    exact {
      contributes := by rw [Node.Contributes, kind]; exact ⟨position, roomId, same⟩
      homes := by simp [same]
      exits := by simpa [same] using there
      rooted := by simpa [same] using rooted.gain_content rfl rfl rfl
      leaving := fun f left => absurd (kept ▸ left) not_leaves_empty }
  | room data =>
    refine (j.adds_room data rooted arrived).mono fun out k ⟨builds, still, f, same, there⟩ => ?_
    exact same ▸ .of_builds builds still there (by rw [Node.Contributes, kind]; exact builds)
  | roomChain data =>
    refine (j.adds_roomChain data rooted arrived).mono fun out k ⟨built, still, f, same, there⟩ => ?_
    obtain ⟨range, n, proper, drawn, builds⟩ := built
    refine same ▸ .of_builds builds still there ?_
    rw [Node.Contributes, kind]
    exact ⟨range, n, proper, drawn, builds⟩
  | spawnPoint data =>
    refine (j.adds_spawnPoint data incoming).mono fun out k ⟨kept, roomId, there, es, puts, same⟩ => ?_
    refine kept ▸ .of_content rooted there same ?_
    rw [Node.Contributes, kind]
    exact ⟨roomId, es, puts, same⟩
  | lootDrop data =>
    refine (j.adds_lootDrop data incoming).mono fun out k ⟨kept, dropped⟩ => ?_
    have contributes : j.node.Contributes (CountRange.Draws σ) k := by
      rw [Node.Contributes, kind]
      exact dropped.imp id fun ⟨roomId, _, es, puts, same⟩ => ⟨roomId, es, puts, same⟩
    rcases dropped with nothing | ⟨roomId, there, es, puts, same⟩
    · subst nothing
      exact .of_passing rooted contributes fun f left => absurd (kept ▸ left) not_leaves_empty
    · exact kept ▸ .of_content rooted there same contributes
  | encounter data =>
    refine (j.adds_encounter data incoming).mono ?_
    intro out k ⟨kept, level, named, roomId, there, es, puts, same⟩
    refine kept ▸ .of_content rooted there same ?_
    rw [Node.Contributes, kind]
    exact ⟨level, named, roomId, es, puts, same⟩
  | prop data =>
    refine (j.adds_prop data incoming).mono fun out k ⟨kept, roomId, there, es, puts, same⟩ => ?_
    refine kept ▸ .of_content rooted there same ?_
    rw [Node.Contributes, kind]
    exact ⟨roomId, es, puts, same⟩
  | branch data => exact passing (by rw [Node.Contributes, kind]) (j.asks_branch data arrived)
  | merge data => exact passing (by rw [Node.Contributes, kind]) (j.asks_merge arrived)
  | sequence data => exact passing (by rw [Node.Contributes, kind]) (j.asks_merge arrived)
  | randomSelect data =>
    exact passing (by rw [Node.Contributes, kind]) (j.asks_randomSelect data arrived)
  | condition data => exact passing (by rw [Node.Contributes, kind]) (j.asks_condition data arrived)
  | distribution data =>
    exact passing (by rw [Node.Contributes, kind]) (j.asks_distribution data arrived)

end Job

end Dungeon
