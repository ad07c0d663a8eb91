import Dungeon.Proofs.Work.Pieces

/-!
# Which rooms overlap

A room that is placed where other rooms are is marked, and a warning says so. `Draft.Flagged` says that
the warnings are those of the rooms that intersect an earlier room, one after another, and that these
rooms are marked. Whatever a node adds keeps it, since rooms neither move nor lose their marks.
-/

namespace Dungeon

variable {σ α : Type} [Scalar α]

namespace Room

/-- Does the room intersect one of the others? -/
def meets (r : Room α) (others : List (Room α)) : Bool :=
  others.any fun s => r.bounds.intersects s.bounds

/-- The rooms that intersect a room placed before them. -/
def overlapping (rooms : List (Room α)) : List (Room α) :=
  (rooms.zipIdx.filter fun p => p.1.meets (rooms.take p.2)).map Prod.fst

omit [Scalar α] in
/-- The warning about a room for which no free place was found in so many retries. -/
def overlapWarning (retries : Int) (r : Room α) : String :=
  r.source.getD "" ++ ": " ++
    ("room '" ++ r.id ++ "' overlaps after " ++ toString retries ++ " retries")

theorem meets_map {f : Room α → Room α} (still : ∀ r, (f r).bounds = r.bounds) (r : Room α)
    (others : List (Room α)) : (f r).meets (others.map f) = r.meets others := by
  simp [meets, still, Function.comp_def]

/-- Which rooms overlap depends on where they are alone. -/
theorem overlapping_map {f : Room α → Room α} (still : ∀ r, (f r).bounds = r.bounds)
    (rooms : List (Room α)) : overlapping (rooms.map f) = (overlapping rooms).map f := by
  rw [overlapping, List.zipIdx_map, List.filter_map, List.map_map, overlapping, List.map_map]
  show (rooms.zipIdx.filter fun p => (f p.1).meets ((rooms.map f).take p.2)).map _ = _
  simp only [← List.map_take, meets_map still]
  rfl

/-- A further room overlaps when it intersects one that is there. -/
theorem overlapping_snoc (rooms : List (Room α)) (r : Room α) :
    overlapping (rooms ++ [r]) = overlapping rooms ++ if r.meets rooms then [r] else [] := by
  have before : rooms.zipIdx.filter (fun p => p.1.meets ((rooms ++ [r]).take p.2)) =
      rooms.zipIdx.filter fun p => p.1.meets (rooms.take p.2) := by
    refine List.filter_congr fun p member => ?_
    have inside := (List.mem_zipIdx' member).1
    rw [List.take_append_of_le_length (Nat.le_of_lt inside)]
  have last : ([r].zipIdx rooms.length).filter (fun p => p.1.meets ((rooms ++ [r]).take p.2)) =
      if r.meets rooms then [(r, rooms.length)] else [] := by
    simp [List.filter_cons]
  rw [overlapping, List.zipIdx_append, List.filter_append, before, Nat.zero_add, last,
    List.map_append, overlapping]
  split <;> rfl

theorem mem_overlapping {rooms : List (Room α)} {r : Room α} {i : Nat} (place : rooms[i]? = some r)
    (meets : r.meets (rooms.take i) = true) : r ∈ overlapping rooms := by
  refine List.mem_map.2 ⟨(r, i), List.mem_filter.2 ⟨?_, meets⟩, rfl⟩
  exact List.mem_zipIdx_iff_getElem?.2 place

end Room

/-- The warnings are those of the rooms that overlap, and these rooms are marked. -/
structure Draft.Flagged (retries : Int) (d : Draft α) : Prop where
  warnings : d.warnings = (Room.overlapping d.rooms).map (Room.overlapWarning retries)
  sources : ∀ r ∈ d.rooms, ∃ id, r.source = some id
  marked : ∀ r ∈ Room.overlapping d.rooms, r.metadata.named? "overlap" = some (.bool true)

namespace Draft.Flagged

variable {retries : Int} {d : Draft α} {k : Contribution α}

theorem empty (retries : Int) : (empty : Draft α).Flagged retries where
  warnings := rfl
  sources := fun _ member => nomatch member
  marked := fun _ member => nomatch member

/-- Content does not change where rooms are. -/
theorem gain_content (h : d.Flagged retries) (rooms : k.rooms = []) (warnings : k.warnings = []) :
    (d.gain k).Flagged retries := by
  have furnished : (d.gain k).rooms = d.rooms.map (Room.furnish k) := by simp [gain, rooms]
  have overlapping : Room.overlapping (d.gain k).rooms =
      (Room.overlapping d.rooms).map (Room.furnish k) := by
    rw [furnished, Room.overlapping_map (Room.bounds_furnish k)]
  constructor
  · rw [overlapping, List.map_map]
    show d.warnings ++ k.warnings = _
    rw [warnings, List.append_nil, h.warnings]
    rfl
  · rw [furnished]
    exact List.forall_mem_map.2 h.sources
  · rw [overlapping]
    exact List.forall_mem_map.2 h.marked

end Draft.Flagged

namespace Job

variable [Source σ α] {d : Draft α} {j : Job α} {retries : Int}

/-- A room with its warning, if there is one. -/
theorem Raises.flagged {roomId : String} {p : CheckedPlan α} {f : Fragment α} {a : Attachment α}
    {k : Contribution α} (raises : j.Raises (σ := σ) d roomId p f a k)
    (given : j.retries = .int retries) (h : d.Flagged retries) : (d.gain k).Flagged retries := by
  obtain ⟨_, shape, doors, bounds, tags, _, _, _, _, _, _, rfl⟩ := raises
  let r : Room α := j.builtRoom roomId p f.vars shape doors bounds tags
    (Placement.overlaps bounds d.placed)
  have meets : r.meets d.rooms = Placement.overlaps bounds d.placed := by
    simp [Room.meets, Placement.overlaps, Draft.placed, r, builtRoom, Function.comp_def]
  have overlapping : Room.overlapping (d.rooms ++ [r]) =
      Room.overlapping d.rooms ++ if Placement.overlaps bounds d.placed then [r] else [] := by
    rw [Room.overlapping_snoc, meets]
  have warning : j.overlapWarning roomId = r.overlapWarning retries := by
    rw [overlapWarning, given]
    rfl
  have rooms (k : Contribution α) (bare : k.content = []) (one : k.rooms = [r]) :
      (d.gain k).rooms = d.rooms ++ [r] := by simp [Draft.gain, bare, one]
  constructor
  · rw [rooms _ rfl rfl, overlapping, List.map_append, ← h.warnings]
    show d.warnings ++ (if _ then [j.overlapWarning roomId] else []) = _
    rw [warning]
    split <;> rfl
  · rw [rooms _ rfl rfl]
    exact List.forall_mem_append.2 ⟨h.sources, by simp [r, builtRoom]⟩
  · rw [rooms _ rfl rfl, overlapping]
    refine List.forall_mem_append.2 ⟨h.marked, fun s member => ?_⟩
    split at member
    next taken =>
      obtain rfl := List.mem_singleton.1 member
      simp [r, builtRoom, roomMetadata, taken, Fields.named?_insert]
    next => cases member

/-- Only a room that is placed can overlap, and it is flagged if it does. -/
theorem Piece.flagged (given : j.retries = .int retries) {k : Contribution α}
    (piece : j.Piece σ d k) (h : d.Flagged retries) : (d.gain k).Flagged retries := by
  cases piece with
  | room _ raises => exact raises.flagged given h
  | connection | entity | spawnPoint | exit | start => exact h.gain_content rfl rfl

end Job

end Dungeon
