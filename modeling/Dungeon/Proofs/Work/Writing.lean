import Dungeon.Proofs.Work.Contribution
import Dungeon.Work.Basic

/-!
# What writing leaves

Nodes write to one draft in any order, and some of what they write is refused. A refused write leaves
everything as it was, and an accepted one adds its contribution. So the draft is the record of the
accepted writes, what is in it stays as it is, and the start room is always one of its rooms.
-/

namespace Dungeon

variable {σ α : Type}

/-- What a node may write to the draft. -/
inductive Write (α : Type)
  | room (id : String) (type : Value α) (bounds : Rect α) (tags : Value α) (metadata : Metadata α)
    (root : Bool)
  | connection (c : Connection α)
  | entity (roomId : String) (e : Entity α)
  | spawnPoint (s : SpawnPoint α)
  | exit (x : Exit α)
  | playerStart (area : SpawnArea) (offset : Point α)
  | warning (message : String)

/-- A write of one node. -/
structure Act (α : Type) where
  node : String
  write : Write α

namespace Act

/-- The act as work. -/
def work (a : Act α) : Work σ α Unit :=
  match a.write with
  | .room id type bounds tags metadata root =>
    let room : Room α := { id, type, bounds, metadata, source := some a.node }
    Work.tryWrite fun d => d.addTagged room tags root
  | .connection c => Work.write fun d => d.connect c
  | .entity roomId e => Work.tryWrite fun d => d.addEntity roomId e
  | .spawnPoint s => Work.write fun d => d.addSpawnPoint s
  | .exit x => Work.write fun d => d.addExit x
  | .playerStart area offset => Work.write fun d => d.setPlayerStart area offset
  | .warning message => Work.write fun d => d.warn a.node message

/-- A new room needs a free id and tags, and an entity a room that is there. -/
def Fits (d : Draft α) (a : Act α) : Prop :=
  match a.write with
  | .room id _ _ tags _ _ => id ∉ d.ids ∧ ∃ given, tags.parts = .ok given
  | .entity roomId _ => roomId ∈ d.ids
  | _ => True

/-- What the act adds when it fits. A room is empty at first, and it names the node that placed it. -/
def adds (a : Act α) : Contribution α :=
  match a.write with
  | .room id type bounds tags metadata root => {
      rooms := [{ id, type, bounds, tags := tags.parts.toOption.getD [], metadata,
                  source := some a.node }]
      root := if root then some id else none }
  | .connection c => { connections := [c] }
  | .entity roomId e => { content := [(roomId, e)] }
  | .spawnPoint s => { spawnPoints := [s] }
  | .exit x => { exits := [x] }
  | .playerStart area offset => { start := some (area, offset) }
  | .warning message => { warnings := [a.node ++ ": " ++ message] }

/-- An act that fits adds its contribution and nothing else; an act that does not fit fails and leaves
everything as it was. -/
theorem work_cases (a : Act α) (s : Site σ α) :
    (a.Fits s.draft ∧ a.work s = .ok () { s with draft := s.draft.gain a.adds }) ∨
      ¬ a.Fits s.draft ∧ ∃ f, a.work s = .error f s := by
  obtain ⟨node, write⟩ := a
  cases write with
  | room id type bounds tags metadata root =>
    by_cases taken : id ∈ s.draft.ids
    · refine .inr ⟨fun fits => fits.1 taken, .roomTaken id, ?_⟩
      simp only [work, Work.tryWrite, Draft.addTagged, if_pos (Draft.hasRoom_iff.2 taken)]
    · cases parts : tags.parts with
      | ok given =>
        refine .inl ⟨⟨taken, given, parts⟩, ?_⟩
        simp only [work, Work.tryWrite, adds, parts]
        rw [s.draft.addTagged_eq root taken parts]
        rfl
      | error f =>
        refine .inr ⟨?_, f, ?_⟩
        · rintro ⟨_, given, fine⟩
          rw [parts] at fine
          cases fine
        · have free : ¬ s.draft.hasRoom id = true := mt Draft.hasRoom_iff.1 taken
          simp only [work, Work.tryWrite, Draft.addTagged, if_neg free, parts]
          rfl
  | entity roomId e =>
    by_cases there : roomId ∈ s.draft.ids
    · refine .inl ⟨there, ?_⟩
      simp only [work, Work.tryWrite, s.draft.addEntity_eq e there, adds]
    · refine .inr ⟨there, .missingKey (Text.quote roomId), ?_⟩
      simp only [work, Work.tryWrite, Draft.addEntity, if_neg (mt Draft.hasRoom_iff.1 there)]
  | connection c => exact .inl ⟨trivial, by simp only [work, Work.write, Draft.connect_eq, adds]⟩
  | spawnPoint p => exact .inl ⟨trivial, by simp only [work, Work.write, Draft.addSpawnPoint_eq, adds]⟩
  | exit x => exact .inl ⟨trivial, by simp only [work, Work.write, Draft.addExit_eq, adds]⟩
  | playerStart area offset =>
    exact .inl ⟨trivial, by simp only [work, Work.write, Draft.setPlayerStart_eq, adds]⟩
  | warning message => exact .inl ⟨trivial, by simp only [work, Work.write, Draft.warn_eq, adds]⟩

end Act

namespace Draft

/-- The contribution brings empty rooms with new ids, and entities for rooms that are there. -/
structure Admits (d : Draft α) (k : Contribution α) : Prop where
  empty : ∀ r ∈ k.rooms, r.entities = []
  distinct : (k.rooms.map Room.id).Nodup
  new : ∀ id ∈ k.rooms.map Room.id, id ∉ d.ids
  housed : ∀ x ∈ k.content, x.1 ∈ d.ids
  root : ∀ id, k.root = some id → id ∈ k.rooms.map Room.id

theorem admits_of_fits {d : Draft α} {a : Act α} (fits : a.Fits d) : d.Admits a.adds := by
  obtain ⟨node, write⟩ := a
  cases write with
  | room id type bounds tags metadata root =>
    constructor <;> simp [Act.adds]
    exact fits.1
  | entity roomId e =>
    constructor <;> simp [Act.adds]
    exact fits
  | _ => constructor <;> simp [Act.adds]

/-- The draft is what the contributions leave, one after the other. -/
structure Records (d : Draft α) (log : List (Contribution α)) : Prop where
  rooms : d.rooms.map Room.bare = log.flatMap Contribution.rooms
  distinct : d.ids.Nodup
  housed : ∀ k ∈ log, ∀ x ∈ k.content, x.1 ∈ d.ids
  entities : ∀ r ∈ d.rooms, r.entities = log.flatMap (·.into r.id)
  connections : d.connections = log.flatMap Contribution.connections
  spawnPoints : d.spawnPoints = log.flatMap Contribution.spawnPoints
  exits : d.exits = log.flatMap Contribution.exits
  warnings : d.warnings = log.flatMap Contribution.warnings
  startRoom : d.startRoom = log.findSome? Contribution.root
  rooted : ∀ id, d.startRoom = some id → id ∈ d.ids

theorem Records.gain {d : Draft α} {log : List (Contribution α)} (records : d.Records log)
    {k : Contribution α} (admits : d.Admits k) : (d.gain k).Records (log ++ [k]) where
  rooms := by
    have bare : k.rooms.map Room.bare = k.rooms := by
      refine (List.map_congr_left fun r member => ?_).trans (List.map_id' _)
      exact Room.bare_of_empty (admits.empty r member)
    simp [Draft.gain, Function.comp_def, records.rooms, bare]
  distinct := by
    rw [ids_gain]
    exact List.nodup_append'.2 ⟨records.distinct, admits.distinct,
      fun id old new => admits.new id new old⟩
  housed l member x content := by
    rw [ids_gain]
    refine List.mem_append_left _ ?_
    rcases List.mem_append.1 member with member | member
    · exact records.housed l member x content
    · cases List.mem_singleton.1 member
      exact admits.housed x content
  entities r member := by
    rw [List.flatMap_append, List.flatMap_singleton]
    rcases List.mem_append.1 member with member | new
    · obtain ⟨before, there, rfl⟩ := List.mem_map.1 member
      rw [Room.id_furnish, ← records.entities before there]
      rfl
    · -- Nothing was put into a room that was not there.
      have absent : r.id ∉ d.ids := admits.new r.id (List.mem_map_of_mem new)
      have unfilled (l : Contribution α) (housed : ∀ x ∈ l.content, x.1 ∈ d.ids) :
          l.into r.id = [] :=
        Contribution.into_eq_nil fun x content same => absent (same ▸ housed x content)
      have before : log.flatMap (·.into r.id) = [] :=
        List.flatMap_eq_nil_iff.2 fun l member => unfilled l (records.housed l member)
      rw [admits.empty r new, before, unfilled k admits.housed, List.append_nil]
  connections := by simp [Draft.gain, records.connections]
  spawnPoints := by simp [Draft.gain, records.spawnPoints]
  exits := by simp [Draft.gain, records.exits]
  warnings := by simp [Draft.gain, records.warnings]
  startRoom := by
    rw [startRoom_gain, records.startRoom, List.findSome?_append, List.findSome?_singleton]
  rooted id started := by
    rw [ids_gain]
    rw [startRoom_gain] at started
    cases before : d.startRoom with
    | none =>
      rw [before, Option.none_or] at started
      exact List.mem_append_right _ (admits.root id started)
    | some first =>
      rw [before, Option.some_or] at started
      cases started
      exact List.mem_append_left _ (records.rooted id before)

/-- What is in the first draft is in the second one too, in the same places. -/
structure Extends (d e : Draft α) : Prop where
  rooms : d.rooms.map Room.bare <+: e.rooms.map Room.bare
  entities : ∀ r ∈ d.rooms, ∃ r' ∈ e.rooms, r'.bare = r.bare ∧ r.entities <+: r'.entities
  connections : d.connections <+: e.connections
  spawnPoints : d.spawnPoints <+: e.spawnPoints
  exits : d.exits <+: e.exits
  warnings : d.warnings <+: e.warnings
  startRoom : ∀ id, d.startRoom = some id → e.startRoom = some id

theorem extends_gain (d : Draft α) (k : Contribution α) : d.Extends (d.gain k) where
  rooms := by
    refine ⟨k.rooms.map Room.bare, ?_⟩
    simp [gain, Function.comp_def]
  entities r member := by
    refine ⟨r.furnish k, ?_, rfl, k.into r.id, rfl⟩
    exact List.mem_append_left _ (List.mem_map_of_mem member)
  connections := ⟨_, rfl⟩
  spawnPoints := ⟨_, rfl⟩
  exits := ⟨_, rfl⟩
  warnings := ⟨_, rfl⟩
  startRoom id started := by rw [startRoom_gain, started, Option.some_or]

variable [Scalar α]

/-- The layout of the draft. It has no place for the player when the start room is not there. -/
def freeze (d : Draft α) : Except Fault (Layout α) :=
  match d.startRoom with
  | none => .ok { d.toLayout with playerStart := ⟨0.0, 0.0⟩ }
  | some id => do
    let bounds ← d.boundsOf id
    return { d.toLayout with playerStart := d.startIn bounds }

theorem freeze_of_rooted {d : Draft α} (rooted : ∀ id, d.startRoom = some id → id ∈ d.ids) :
    d.freeze = .ok d.toLayout := by
  cases started : d.startRoom with
  | none => simp [freeze, started, toLayout, playerStart]
  | some id =>
    have there : d.hasRoom id = true := hasRoom_iff.2 (rooted id started)
    obtain ⟨r, found⟩ := Option.isSome_iff_exists.1 there
    simp only [freeze, started, boundsOf, found]
    simp [toLayout, playerStart, started, found, bind, Except.bind, pure, Except.pure]

theorem records_empty : (empty : Draft α).Records [] := by
  constructor <;> simp [empty, ids]

end Draft

/-- The site as an act leaves it, whether the act is accepted or fails. -/
def Act.leaves (a : Act α) (s : Site σ α) : Site σ α :=
  match a.work s with
  | .ok _ t => t
  | .error _ t => t

namespace Site

/-- The site after some acts. -/
def after (s : Site σ α) (acts : List (Act α)) : Site σ α := acts.foldl (fun s a => a.leaves s) s

/-- Those of the acts that are accepted. -/
def accepted (s : Site σ α) : List (Act α) → List (Act α)
  | [] => []
  | a :: rest =>
    match a.work s with
    | .ok _ t => a :: t.accepted rest
    | .error _ t => t.accepted rest

/-- Acts add to the draft. -/
theorem after_gains (s : Site σ α) (acts : List (Act α)) :
    ∃ k, (s.after acts).draft = s.draft.gain k := by
  induction acts generalizing s with
  | nil => exact ⟨{}, s.draft.gain_empty.symm⟩
  | cons a rest ih =>
    have next : s.after (a :: rest) = (a.leaves s).after rest := rfl
    obtain ⟨k, gained⟩ := ih (a.leaves s)
    rw [next, gained]
    rcases a.work_cases s with ⟨_, worked⟩ | ⟨_, f, worked⟩
    · refine ⟨a.adds ++ k, ?_⟩
      rw [Draft.gain_append, Act.leaves, worked]
    · refine ⟨k, ?_⟩
      rw [Act.leaves, worked]

/-- What the draft records is what it recorded before and then the accepted acts. -/
theorem after_records {s : Site σ α} {log : List (Contribution α)} (records : s.draft.Records log)
    (acts : List (Act α)) :
    (s.after acts).draft.Records (log ++ (s.accepted acts).map Act.adds) := by
  induction acts generalizing s log with
  | nil => simpa [after, accepted] using records
  | cons a rest ih =>
    have next : s.after (a :: rest) = (a.leaves s).after rest := rfl
    rw [next, accepted]
    rcases a.work_cases s with ⟨fits, worked⟩ | ⟨_, f, worked⟩
    · have more := ih (s := { s with draft := s.draft.gain a.adds })
        (records.gain (Draft.admits_of_fits fits))
      simpa [Act.leaves, worked] using more
    · simpa [Act.leaves, worked] using ih records

end Site

/-- Nodes write to a new draft, in any order. Each act is accepted and adds its contribution if it fits
the draft, or fails and changes nothing. The draft is the record of the accepted acts: its rooms have
distinct ids, and they stand in the order in which they were placed and as they were placed, apart from
the entities put into them since. Whatever is written later, what is there stays. The start room is
the first room placed as a root, and so the layout can be taken. -/
theorem acts_recorded [Scalar α] (stream : σ) (acts : List (Act α)) :
    let s : Site σ α := Site.after ⟨.empty, stream⟩ acts
    (∀ a : Act α, (a.Fits s.draft ∧ a.work s = .ok () { s with draft := s.draft.gain a.adds }) ∨
      ¬ a.Fits s.draft ∧ ∃ f, a.work s = .error f s) ∧
    s.draft.Records ((Site.accepted (⟨.empty, stream⟩ : Site σ α) acts).map Act.adds) ∧
    (∀ more, s.draft.Extends (Site.after (⟨.empty, stream⟩ : Site σ α) (acts ++ more)).draft) ∧
    s.draft.freeze = .ok s.draft.toLayout := by
  intro s
  have records := Site.after_records (s := (⟨.empty, stream⟩ : Site σ α)) Draft.records_empty acts
  refine ⟨fun a => a.work_cases s, records, fun more => ?_, Draft.freeze_of_rooted records.rooted⟩
  have later : Site.after ⟨.empty, stream⟩ (acts ++ more) = s.after more := List.foldl_append
  obtain ⟨k, gained⟩ := s.after_gains more
  rw [later, gained]
  exact Draft.extends_gain _ k

end Dungeon
