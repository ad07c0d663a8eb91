import Dungeon.Proofs.Work.Adds
import Dungeon.Proofs.Work.Rooted

/-!
# What room nodes add

A room node adds one room and a chain node several, each with a shape and a number of doors from the
node's settings, and connections that lead to these rooms alone. A rooted draft stays rooted as each
room comes: the room is connected from the anchors it is given, and without anchors from the start
room, or it becomes the start room itself.
-/

namespace Dungeon

variable {σ α : Type}

/-- The room is one that the node may place by its plan. -/
structure Room.Fits (counts : CountRange → Int → Prop) (n : Node α) (plan : RoomPlan α)
    (r : Room α) : Prop where
  source : r.source = some n.id
  type : r.type = plan.type
  tags : plan.tags.parts = .ok r.tags
  shape : ∃ shapes s, plan.shapes = .proper shapes ∧ s ∈ shapes ∧
    r.metadata.named? "shape" = some (.text s.name)
  doors : ∃ range m, plan.doors = .proper range ∧ counts range m ∧
    r.metadata.named? "doorCount" = some (.int m)
  empty : r.entities = []

/-- The contribution is one room that is not connected yet, perhaps with warnings. -/
def Contribution.Places (counts : CountRange → Int → Prop) (n : Node α) (plan : RoomPlan α)
    (anchor : Option String) (id : String) (k : Contribution α) : Prop :=
  ∃ r warnings, k = { rooms := [r], warnings, root := if anchor.isNone then some id else none } ∧
    r.id = id ∧ r.Fits counts n plan

/-- The contribution is rooms with these ids, and connections to them. -/
structure Contribution.Builds (counts : CountRange → Int → Prop) (n : Node α) (plan : RoomPlan α)
    (ids : List String) (k : Contribution α) : Prop where
  rooms : k.rooms.map Room.id = ids
  fits : ∀ r ∈ k.rooms, r.Fits counts n plan
  connections : ∀ c ∈ k.connections, c.toRoom ∈ ids
  content : k.content = []
  spawnPoints : k.spawnPoints = []
  exits : k.exits = []
  start : k.start = none

namespace Contribution.Builds

variable {counts : CountRange → Int → Prop} {n : Node α} {plan : RoomPlan α}

theorem empty : Builds counts n plan [] ({} : Contribution α) := by
  constructor <;> simp

theorem append {k l : Contribution α} {ids more : List String} (hk : Builds counts n plan ids k)
    (hl : Builds counts n plan more l) : Builds counts n plan (ids ++ more) (k ++ l) where
  rooms := by simp [append_def, hk.rooms, hl.rooms, hl.content]
  fits r member := by
    rw [append_def] at member
    simp only [Room.furnish_of_no_content hl.content, List.map_id'] at member
    exact (List.mem_append.1 member).elim (hk.fits r) (hl.fits r)
  connections c member := (List.mem_append.1 member).elim
    (fun old => List.mem_append_left _ (hk.connections c old))
    fun new => List.mem_append_right _ (hl.connections c new)
  content := by simp [append_def, hk.content, hl.content]
  spawnPoints := by simp [append_def, hk.spawnPoints, hl.spawnPoints]
  exits := by simp [append_def, hk.exits, hl.exits]
  start := by simp [append_def, hk.start, hl.start]

end Contribution.Builds

section
variable {d : Draft α} {anchor : Option String} {anchors : List String} {id : String}

/-- A new room is connected from different rooms, and from some unless it is the first. -/
theorem Draft.Rooted.parents (h : d.Rooted) (anchored : d.Anchored anchor anchors) (new : id ∉ d.ids)
    {k : Contribution α} (root : k.root = if anchor.isNone then some id else none) :
    (Job.parents (d.gain k) anchors id).Nodup ∧ Job.parents (d.gain k) anchors id ⊆ d.ids ∧
      (d.ids ≠ [] → Job.parents (d.gain k) anchors id ≠ []) := by
  rw [Job.parents]
  by_cases none_given : anchors = []
  · rw [if_pos (List.isEmpty_iff.2 none_given), startRoom_gain, h.start]
    cases before : d.ids with
    | nil => simp [Option.filter, root, anchored.first, none_given]
    | cons first rest =>
      have other : first ≠ id := fun same => new (by simp [before, same])
      simp [Option.filter, other]
  · rw [if_neg (by simpa using none_given)]
    exact ⟨anchored.distinct, anchored.inside, fun _ => none_given⟩

/-- Placing a room and connecting it from its parents keeps a draft rooted. -/
theorem Draft.Rooted.place (h : d.Rooted) (anchored : d.Anchored anchor anchors)
    {k l : Contribution α} {r : Room α} (new : r.id ∉ d.ids) (room : k.rooms = [r])
    (unconnected : k.connections = []) (root : k.root = if anchor.isNone then some r.id else none)
    (connected : l.rooms = []) (rootless : l.root = none)
    (ways : l.connections.map Connection.way = (Job.parents (d.gain k) anchors r.id).map (·, r.id)) :
    ((d.gain k).gain l).Rooted where
  rooms := by
    obtain ⟨distinct, inside, some_parent⟩ := h.parents anchored new root
    simpa [room, unconnected, connected, ways] using h.rooms.place new distinct inside some_parent
  start := by
    rw [startRoom_gain, startRoom_gain, ids_gain, ids_gain, h.start, rootless, root, room, connected]
    cases before : d.ids with
    | cons first rest => simp
    | nil =>
      have none_given : anchors = [] := List.subset_nil.1 (before ▸ anchored.inside)
      simp [anchored.first, none_given]

end

/-- The checked plan is what the plan says, and there is nothing wrong with its sizes. -/
structure CheckedPlan.Keeps [Scalar α] (p : CheckedPlan α) (plan : RoomPlan α) : Prop where
  sizes : p.size.problems = []
  shapes : p.shapes = plan.shapes
  doors : plan.doors = .proper p.doors
  type : p.type = plan.type
  tags : p.tags = plan.tags

/-- The sides of the rectangle are drawn for the sizes of the plan. -/
def CheckedPlan.Sizes (σ : Type) [Scalar α] [Source σ α] (p : CheckedPlan α) (r : Rect α) : Prop :=
  (∃ s t : σ, Draw.between p.size.low.w p.size.high.w s = .ok r.width t) ∧
    ∃ s t : σ, Draw.between p.size.low.h p.size.high.h s = .ok r.height t

namespace Placement

variable [Scalar α] [Source σ α] {ref : Rect α} {direction : Direction} {lateral width height : α}

theorem sides_of_candidate : Yields (candidate ref direction lateral width height : Draw σ (Rect α))
    fun r => r.width = width ∧ r.height = height :=
  .bind fun _ => .bind fun _ => .pure (by cases direction <;> exact ⟨rfl, rfl⟩)

/-- The place that is kept in the end is free, or the flag says that it is not. It is of the size that
was asked for. -/
theorem kept_of_replace {placed : List (Rect α)} (retries : Nat) {bounds : Rect α}
    (sides : bounds.width = width ∧ bounds.height = height) :
    Yields (replace ref direction lateral width height placed bounds retries :
      Draw σ (Rect α × Bool)) fun x =>
        x.2 = overlaps x.1 placed ∧ x.1.width = width ∧ x.1.height = height := by
  induction retries generalizing bounds with
  | zero => exact .pure ⟨rfl, sides⟩
  | succ retries ih =>
    unfold replace
    split
    next => exact sides_of_candidate.after fun next sides => ih sides
    next free => exact .pure ⟨by simpa using free, sides⟩

theorem kept_of_placeBounds {placed : List (Rect α)} {retries : Value α} {s t : σ}
    {bounds : Rect α} {overlapped : Bool}
    (drawn : placeBounds ref direction lateral width height placed retries s =
      .ok (bounds, overlapped) t) :
    overlapped = overlaps bounds placed ∧ bounds.width = width ∧ bounds.height = height := by
  have yields : Yields (placeBounds ref direction lateral width height placed retries :
      Draw σ (Rect α × Bool)) fun x =>
        x.2 = overlaps x.1 placed ∧ x.1.width = width ∧ x.1.height = height :=
    sides_of_candidate.after fun first sides => .bind fun n => kept_of_replace n.toNat sides
  exact yields s _ t drawn

end Placement

namespace Job

open Work

variable {d : Draft α} [Scalar α]

/-- The room that a node places after what was drawn for it. -/
def builtRoom (j : Job α) (id : String) (p : CheckedPlan α) (vars : Metadata α) (shape : RoomShape)
    (doors : Int) (bounds : Rect α) (tags : List (Value α)) (overlapped : Bool) : Room α where
  id
  type := p.type
  bounds
  tags
  metadata := roomMetadata vars shape.name doors overlapped
  source := some j.node.id

/-- The line about a room for which no free place was found. -/
def overlapWarning (j : Job α) (id : String) : String :=
  j.node.id ++ ": " ++ ("room '" ++ id ++ "' overlaps after " ++ j.retries.plain ++ " retries")

theorem named?_roomMetadata (vars : Metadata α) (shape : String) (doors : Int) (overlapped : Bool) :
    (roomMetadata vars shape doors overlapped).named? "shape" = some (.text shape) ∧
      (roomMetadata vars shape doors overlapped).named? "doorCount" = some (.int doors) := by
  unfold roomMetadata
  cases overlapped <;> simp [Fields.named?_insert]

theorem asks_checkedPlan (j : Job α) (plan : RoomPlan α) :
    Asks d (j.checkedPlan plan : Work σ α (CheckedPlan α)) fun p => p.Keeps plan := by
  refine .ask (asks_require _ _) fun own _ => ?_
  refine .ask (.lift _) fun size _ => ?_
  refine .ask (asks_require _ _) fun doors proper => .ask (.lift _) fun problems _ => ?_
  refine .ask (.failWith j _) fun _ fine => .pure ⟨rfl, ?_, rfl, proper, rfl, rfl⟩
  exact (List.append_eq_nil_iff.1 (List.append_eq_nil_iff.1 fine).1).1

variable [Source σ α]

omit [Scalar α] in
theorem asks_chooseShape (shapes : Setting (List RoomShape) α) :
    Asks d (chooseShape shapes : Work σ α (Except Fault String)) fun x => ∀ name, x = .ok name →
      ∃ given s, shapes = .proper given ∧ s ∈ given ∧ name = s.name := by
  cases shapes with
  | proper given =>
    refine .ask (.draw _) fun s ⟨_, _, drawn⟩ => .pure ⟨rfl, fun name same => ?_⟩
    cases same
    exact ⟨given, s, rfl, Draw.mem_of_choose drawn, rfl⟩
  | foreign v =>
    refine .ask (.lift _) fun count _ => .ask (.draw _) fun i _ => ?_
    split
    · intro s v t done
      cases done
    · exact .pure ⟨rfl, fun _ same => nomatch same⟩

omit [Scalar α] [Source σ α] in
theorem adds_addTagged {r : Room α} {tags : Value α} {root : Bool} :
    Adds d (tryWrite fun d => d.addTagged r tags root : Work σ α Unit) fun _ k => ∃ given,
      k = { rooms := [{ r with tags := given }], root := if root then some r.id else none } ∧
        tags.parts = .ok given ∧ r.id ∉ d.ids := by
  refine .tryWrite fun d' added => ?_
  by_cases taken : r.id ∈ d.ids
  · rw [Draft.addTagged, if_pos (Draft.hasRoom_iff.2 taken)] at added
    cases added
  · obtain ⟨given, parts⟩ : ∃ given, tags.parts = .ok given := by
      rw [Draft.addTagged, if_neg (mt Draft.hasRoom_iff.1 taken)] at added
      obtain ⟨given, parts, _⟩ := except_bind_eq_ok.1 added
      exact ⟨given, parts⟩
    rw [d.addTagged_eq root taken parts] at added
    cases added
    exact ⟨_, rfl, ⟨given, rfl, parts, taken⟩,
      fun e alike => e.addTagged_eq root (alike.ids ▸ taken) parts⟩

/-- What building a room adds: the room, and a warning when there is no free place for it. -/
def Raises (j : Job α) (d : Draft α) (roomId : String) (p : CheckedPlan α) (f : Fragment α)
    (a : Attachment α) (k : Contribution α) : Prop :=
  ∃ shapes shape doors bounds tags, p.shapes = .proper shapes ∧ shape ∈ shapes ∧
    CountRange.Draws σ p.doors doors ∧ p.Sizes σ bounds ∧ p.tags.parts = .ok tags ∧
    roomId ∉ d.ids ∧ k = {
      rooms := [j.builtRoom roomId p f.vars shape doors bounds tags
        (Placement.overlaps bounds d.placed)]
      warnings := if Placement.overlaps bounds d.placed then [j.overlapWarning roomId] else []
      root := if a.anchor.isNone then some roomId else none }

theorem adds_buildRoom (j : Job α) (roomId : String) (p : CheckedPlan α) (f : Fragment α)
    (a : Attachment α) :
    Adds d (j.buildRoom roomId p f a : Work σ α Unit) fun _ k =>
      j.Raises (σ := σ) d roomId p f a k := by
  refine .ask (.draw _) fun width wide => .ask (.draw _) fun height high => ?_
  refine .ask (asks_chooseShape _) fun chosen shaped => .ask (.draw _) fun doors ⟨s, t, drawn⟩ => ?_
  have place (warnings : List String) {name : String} (given : chosen = .ok name) {bounds : Rect α}
      (sides : bounds.width = width ∧ bounds.height = height)
      (warned : warnings =
        if Placement.overlaps bounds d.placed then [j.overlapWarning roomId] else []) :
      Adds (d.gain { warnings }) (tryWrite fun e => e.addTagged {
        id := roomId, type := p.type, bounds
        metadata := roomMetadata f.vars name doors (Placement.overlaps bounds d.placed)
        source := some j.node.id } p.tags a.anchor.isNone : Work σ α Unit)
        fun _ k => j.Raises (σ := σ) d roomId p f a ({ warnings } ++ k) := by
    refine adds_addTagged.mono fun _ k ⟨tags, added, parts, new⟩ => ?_
    obtain ⟨shapes, shape, proper, member, rfl⟩ := shaped name given
    have sized : p.Sizes σ bounds := ⟨sides.1 ▸ wide, sides.2 ▸ high⟩
    refine ⟨shapes, shape, doors, bounds, tags, proper, member, ⟨s, t, drawn⟩, sized, parts, ?_, ?_⟩
    · simpa using new
    · rw [added, ← warned]
      simp [Contribution.append_def, builtRoom]
  dsimp only
  split
  on_goal 1 => refine .ask (.boundsOf _) fun ref _ => ?_
  on_goal 2 => refine .ask (.known _) fun ref _ => ?_
  all_goals
    refine .look (.ask (.draw _) fun (bounds, overlapped) ⟨_, _, tried⟩ =>
      .ask (.lift _) fun name given => ?_) fun e alike => by rw [alike.placed]
    obtain ⟨rfl, sides⟩ := Placement.kept_of_placeBounds tried
    refine .ite (fun taken => .ask (.lift _) fun retries told => .bind (.warn _ _) ?_) fun free => ?_
    · obtain ⟨_, rfl⟩ := writing_eq_ok.1 told
      rintro _ _ rfl
      exact place _ given sides (if_pos taken).symm
    · simpa using place [] given sides (if_neg free).symm

/-- The room that is placed is one that the plan allows; nothing is connected yet. -/
theorem places_buildRoom (j : Job α) {plan : RoomPlan α} {p : CheckedPlan α} (kept : p.Keeps plan)
    (roomId : String) (f : Fragment α) (a : Attachment α) :
    Adds d (j.buildRoom roomId p f a : Work σ α Unit) fun _ k =>
      k.Places (CountRange.Draws σ) j.node plan a.anchor roomId ∧ roomId ∉ d.ids := by
  refine (j.adds_buildRoom roomId p f a).mono ?_
  rintro _ _ ⟨shapes, shape, doors, bounds, tags, proper, member, drawn, _, parts, new, rfl⟩
  obtain ⟨named_shape, named_doors⟩ :=
    named?_roomMetadata f.vars shape.name doors (Placement.overlaps bounds d.placed)
  refine ⟨⟨_, _, rfl, rfl, ?_⟩, new⟩
  exact {
    source := rfl
    type := kept.type
    tags := kept.tags ▸ parts
    shape := ⟨shapes, shape, kept.shapes ▸ proper, member, named_shape⟩
    doors := ⟨p.doors, doors, kept.doors, drawn, named_doors⟩
    empty := rfl }

/-- Each of the rooms is connected to the new one. -/
theorem adds_connectRoom (roomId : String) (bounds : Rect α) (others : List String) :
    Adds d (connectRoom roomId bounds others : Work σ α Unit) fun _ k => ∃ cs,
      k = { connections := cs } ∧ cs.map Connection.way = others.map (·, roomId) := by
  induction others generalizing d with
  | nil => exact .pure ⟨[], rfl, rfl⟩
  | cons other rest ih =>
    refine .ask (.boundsOf other) fun otherBounds _ => .ask (.draw _) fun doors _ => ?_
    refine .bind (.connect _) ?_
    rintro _ _ rfl
    refine ih.mono fun _ k ⟨cs, same, ways⟩ => ?_
    subst same
    refine ⟨⟨other, roomId, doors.1, doors.2⟩ :: cs, ?_, ?_⟩
    · simp [Contribution.append_def]
    · rw [List.map_cons, ways]
      rfl

theorem adds_connectRooms (anchors : List String) (roomId : String) :
    Adds d (connectRooms anchors roomId : Work σ α Unit) fun _ k => ∃ cs,
      k = { connections := cs } ∧
        cs.map Connection.way = (parents d anchors roomId).map (·, roomId) := by
  refine .look (.ask (.boundsOf roomId) fun bounds _ => adds_connectRoom roomId bounds _) ?_
  intro e alike
  have same : parents e anchors roomId = parents d anchors roomId := by
    rw [parents, parents, alike.startRoom]
  rw [same]

/-- Placing a room, connecting it, and then the rest of the work. -/
theorem adds_placedRoom {β : Type} (j : Job α) {plan : RoomPlan α} {p : CheckedPlan α}
    (kept : p.Keeps plan) (rooted : d.Rooted) {roomId : String} {f : Fragment α} {a : Attachment α}
    {anchors : List String} (anchored : d.Anchored a.anchor anchors) {rest : Work σ α β}
    {Q : β → Contribution α → Prop}
    (next : ∀ k, k.Builds (CountRange.Draws σ) j.node plan [roomId] → (d.gain k).Rooted →
      Adds (d.gain k) rest fun v l => Q v (k ++ l)) :
    Adds d (do j.buildRoom roomId p f a; connectRooms anchors roomId; rest) Q := by
  refine .bind (j.places_buildRoom kept roomId f a) fun _ k ⟨⟨r, warnings, same, named, fits⟩, new⟩ => ?_
  refine .bind (adds_connectRooms anchors roomId) fun _ l ⟨cs, connected, ways⟩ => ?_
  have rooms : k.rooms = [r] := by rw [same]
  have to_room : ∀ c ∈ cs, c.toRoom ∈ [roomId] := by
    intro c member
    have way := List.mem_map_of_mem (f := Connection.way) member
    rw [ways] at way
    obtain ⟨other, _, pair⟩ := List.mem_map.1 way
    simp [← (Prod.mk.inj pair).2]
  have builds : (k ++ l).Builds (CountRange.Draws σ) j.node plan [roomId] := by
    subst same connected
    constructor <;> simp_all [Contribution.append_def]
  have still : (d.gain (k ++ l)).Rooted := by
    rw [Draft.gain_append]
    refine rooted.place anchored (by rwa [named]) rooms ?_ ?_ ?_ ?_ ?_ <;>
      simp_all
  have done := next (k ++ l) builds still
  simpa only [Draft.gain_append, Contribution.append_assoc] using done

omit [Source σ α] in
theorem asks_continueFrom (f : Fragment α) (roomId : String) :
    Asks d (continueFrom f roomId : Work σ α (Fragment α)) fun g =>
      ∃ cursor, g = f.atRoom roomId cursor :=
  .ask (.boundsOf roomId) fun _ _ => .pure ⟨rfl, _, rfl⟩

/-- A fragment that goes on from a room is rooted there. -/
theorem rootedIn_atRoom (f : Fragment α) {roomId : String} (room : roomId ∈ d.ids)
    (cursor : Cursor α) : (f.atRoom roomId cursor).RootedIn d := Draft.anchored_room room

/-- A later room of a chain hangs off one of the rooms before it. -/
theorem asks_nextAttachment (style : ConnectionStyle) (forward : Direction) {placed : List String}
    {last : String} (latest : last ∈ placed) :
    Asks d (nextAttachment style forward placed last : Work σ α (String × Attachment α)) fun x =>
      x.1 ∈ placed ∧ x.2.anchor = some x.1 := by
  cases style with
  | linear => exact .pure ⟨rfl, latest, rfl⟩
  | branching =>
    refine .ask (.draw _) fun anchor ⟨_, _, drawn⟩ => .ask (.draw _) fun _ _ => ?_
    exact .pure ⟨rfl, Draw.mem_of_choose drawn, rfl⟩

theorem adds_laterRooms (j : Job α) (data : RoomChainData α) {p : CheckedPlan α}
    (kept : p.Keeps data.plan) (f : Fragment α) (ids : List String) {placed : List String}
    {last : String} (rooted : d.Rooted) (inside : placed ⊆ d.ids) (latest : last ∈ placed) :
    Adds d (j.laterRooms data p f placed last ids : Work σ α String) fun v k =>
      k.Builds (CountRange.Draws σ) j.node data.plan ids ∧ (d.gain k).Rooted ∧
        v ∈ (d.gain k).ids := by
  induction ids generalizing d placed last with
  | nil => exact .pure ⟨.empty, by simpa using rooted, by simpa using inside latest⟩
  | cons id rest ih =>
    refine .ask (asks_nextAttachment _ _ latest) fun (anchor, a) ⟨member, attached⟩ => ?_
    have anchored : d.Anchored a.anchor [anchor] :=
      attached ▸ Draft.anchored_room (inside member)
    refine j.adds_placedRoom kept rooted anchored fun k builds still => ?_
    have grown : placed ++ [id] ⊆ (d.gain k).ids := by
      rw [Draft.ids_gain, builds.rooms]
      exact List.append_subset.2 ⟨fun x h => List.mem_append_left _ (inside h), by simp⟩
    refine (ih still grown (by simp)).mono fun v l ⟨more, rooted, there⟩ => ?_
    rw [Draft.gain_append]
    exact ⟨builds.append more, rooted, there⟩

/-- A room node adds the room that is named after it. -/
theorem adds_room (j : Job α) (data : RoomData α) {incoming : List (Fragment α)} (rooted : d.Rooted)
    (arrived : ∀ f ∈ incoming, f.RootedIn d) :
    Adds d (j.room data incoming : Work σ α (Outcome α)) fun out k =>
      k.Builds (CountRange.Draws σ) j.node data.plan [j.node.id] ∧ (d.gain k).Rooted ∧
        ∃ f, out = j.everywhere f ∧ f.RootedIn (d.gain k) := by
  refine .ask (j.asks_checkedPlan _) fun p kept => .ask (j.asks_single _) fun f merged => ?_
  refine j.adds_placedRoom kept rooted ?_ fun k builds still => ?_
  · exact Fragment.rootedIn_merge merged arrived
  have room : j.node.id ∈ (d.gain k).ids := by simp [builds.rooms]
  refine .ask (asks_continueFrom f j.node.id) fun g ⟨cursor, same⟩ => .pure ?_
  subst same
  simpa using ⟨builds, still, _, rfl, rootedIn_atRoom f room cursor⟩

/-- A chain node adds as many numbered rooms as it has drawn. -/
theorem adds_roomChain (j : Job α) (data : RoomChainData α) {incoming : List (Fragment α)}
    (rooted : d.Rooted) (arrived : ∀ f ∈ incoming, f.RootedIn d) :
    Adds d (j.roomChain data incoming : Work σ α (Outcome α)) fun out k =>
      (∃ range n, data.count = .proper range ∧ range.Draws σ (n : Nat) ∧
        k.Builds (CountRange.Draws σ) j.node data.plan (Placement.roomIds j.node.id n)) ∧
      (d.gain k).Rooted ∧ ∃ f, out = j.everywhere f ∧ f.RootedIn (d.gain k) := by
  refine .ask (j.asks_checkedPlan _) fun p kept => .ask (j.asks_single _) fun f merged => ?_
  refine .ask (j.asks_count _ _) fun n ⟨range, proper, drawn⟩ => ?_
  have there := Fragment.rootedIn_merge merged arrived
  split
  next none_drawn =>
    refine .pure ⟨⟨range, n, proper, drawn, ?_⟩, by simpa using rooted, f, rfl, by simpa using there⟩
    rw [none_drawn]
    exact .empty
  next first rest ids =>
    refine j.adds_placedRoom kept rooted ?_ fun k builds still => ?_
    · exact there
    have room : [first] ⊆ (d.gain k).ids := by simp [builds.rooms]
    refine .bind (j.adds_laterRooms data kept f rest still room (by simp)) ?_
    intro last l ⟨more, rooted, placed⟩
    refine .ask (asks_continueFrom f last) fun g ⟨cursor, same⟩ => .pure ?_
    subst same
    rw [Contribution.append_empty, Draft.gain_append]
    exact ⟨⟨range, n, proper, drawn, ids ▸ builds.append more⟩, rooted, _, rfl,
      rootedIn_atRoom f placed cursor⟩

end Job

end Dungeon
