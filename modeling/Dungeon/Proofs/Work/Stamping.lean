import Dungeon.Proofs.Drawing
import Dungeon.Proofs.Work.Overlap
import Dungeon.Proofs.Work.Straight

/-!
# What rooms are stamped with

The data of a room are the variables of the fragment that came to its node, then the shape and the number
of doors that were drawn right after its sides, and a mark when the room intersects one that was placed
before. Whatever a node does, it places rooms in no other way.
-/

namespace Dungeon

open Relation (ReflTransGen)

variable {σ α : Type} [Scalar α] [Source σ α]

/-- The width, the height, the shape and the number of doors of a room are drawn one after another, the
first of them from this stream. -/
def CheckedPlan.Draws (p : CheckedPlan α) (stream : σ) (bounds : Rect α) (shape : RoomShape)
    (doors : Int) : Prop :=
  ∃ shapes, p.shapes = .proper shapes ∧ ∃ s₁ s₂ s₃ s₄,
    Draw.between p.size.low.w p.size.high.w stream = .ok bounds.width s₁ ∧
    Draw.between p.size.low.h p.size.high.h s₁ = .ok bounds.height s₂ ∧
    Draw.choose shapes s₂ = .ok shape s₃ ∧
    Draw.integer p.doors.low p.doors.high s₃ = .ok doors s₄

/-- The room has its data from these variables, from what was drawn for it, and from where it lies among
the rooms before it. -/
structure Room.Stamped (nodeId : String) (p : CheckedPlan α) (vars : Metadata α) (stream : σ)
    (before : List (Room α)) (r : Room α) : Prop where
  source : r.source = some nodeId
  stamp : ∃ shape doors, p.Draws stream r.bounds shape doors ∧
    r.metadata = Job.roomMetadata vars shape.name doors (r.meets before)

namespace Room

variable {nodeId : String} {p : CheckedPlan α} {vars : Metadata α} {stream : σ}
  {before rooms : List (Room α)} {r : Room α}

/-- Content changes neither the data of rooms nor where they lie. -/
theorem Stamped.furnish (h : r.Stamped nodeId p vars stream before) (k : Contribution α) :
    (r.furnish k).Stamped nodeId p vars stream (before.map (Room.furnish k)) where
  source := h.source
  stamp := by
    obtain ⟨shape, doors, drawn, data⟩ := h.stamp
    refine ⟨shape, doors, drawn, ?_⟩
    rw [meets_map (bounds_furnish k)]
    exact data

omit [Scalar α] in
/-- Each room is so related to the rooms before it. -/
def Each (Q : List (Room α) → Room α → Prop) (rooms : List (Room α)) : Prop :=
  ∀ i r, rooms[i]? = some r → Q (rooms.take i) r

variable {Q Q' : List (Room α) → Room α → Prop}

omit [Scalar α]

theorem each_nil : Each Q [] := fun _ _ place => nomatch place

theorem Each.mono (h : Each Q rooms) (weaker : ∀ before r, Q before r → Q' before r) : Each Q' rooms :=
  fun i r place => weaker _ _ (h i r place)

theorem Each.snoc (h : Each Q rooms) (last : Q rooms r) : Each Q (rooms ++ [r]) := by
  intro i s place
  by_cases old : i < rooms.length
  · rw [List.getElem?_append_left old] at place
    rw [List.take_append_of_le_length (Nat.le_of_lt old)]
    exact h i s place
  · have here : i = rooms.length := by
      obtain ⟨inside, _⟩ := List.getElem?_eq_some_iff.1 place
      simp only [List.length_append, List.length_singleton] at inside
      omega
    subst here
    obtain rfl : r = s := by simpa using place
    simpa using last

theorem Each.map (h : Each Q rooms) {f : Room α → Room α}
    (kept : ∀ before r, Q before r → Q' (before.map f) (f r)) : Each Q' (rooms.map f) := by
  intro i s place
  rw [List.getElem?_map] at place
  obtain ⟨r, there, rfl⟩ := Option.map_eq_some_iff.1 place
  rw [← List.map_take]
  exact kept _ _ (h i r there)

end Room

omit [Scalar α] in
/-- The plan of the rooms that the node builds, if it builds any. -/
def Node.plan? (n : Node α) : Option (RoomPlan α) :=
  match n.data with
  | .room d => some d.plan
  | .roomChain d => some d.plan
  | _ => none

namespace Job

open Work

/-- One stride of work that builds rooms: the rooms stay as they are, or one is placed. -/
inductive Stride (j : Job α) (p : CheckedPlan α) (vars : Metadata α) : Site σ α → Site σ α → Prop
  | passed {s t : Site σ α} : Source.Later s.stream t.stream → t.draft.rooms = s.draft.rooms →
      Stride j p vars s t
  | placed {s t : Site σ α} {r : Room α} : Source.Later s.stream t.stream →
      r.Stamped j.node.id p vars s.stream s.draft.rooms → t.draft.rooms = s.draft.rooms ++ [r] →
      Stride j p vars s t

variable {j : Job α} {p : CheckedPlan α} {f : Fragment α} {vars : Metadata α} {s t : Site σ α}

theorem stride_of_still {β : Type} {w : Work σ α β} {v : β} (still : Still w)
    (advances : Advances Site.stream w) (done : w s = .ok v t) : j.Stride p vars s t := by
  have kept := (still s).rooms
  rw [done] at kept
  exact .passed (advances done) kept

omit [Scalar α] [Source σ α] in
/-- A room with the tags that a value holds comes last. -/
theorem rooms_of_addTagged {r : Room α} {tags : Value α} {root : Bool}
    (done : (tryWrite fun d => d.addTagged r tags root : Work σ α Unit) s = .ok () t) :
    ∃ given, t.draft.rooms = s.draft.rooms ++ [{ r with tags := given }] := by
  obtain ⟨k, gained, ⟨given, rfl, _⟩, _⟩ := adds_addTagged (d := s.draft) done
  refine ⟨given, ?_⟩
  rw [gained]
  simp [Draft.gain]

omit [Scalar α] in
/-- A name that comes from a choice is the name of the shape that was drawn. -/
theorem drawn_of_chooseShape {shapes : Setting (List RoomShape) α} {name : String}
    (done : chooseShape shapes s = .ok (.ok name) t) :
    ∃ given shape stream, shapes = .proper given ∧ Draw.choose given s.stream = .ok shape stream ∧
      name = shape.name ∧ t = { s with stream } := by
  cases shapes with
  | proper given =>
    obtain ⟨shape, s', chosen, done⟩ := bind_eq_ok.1 done
    obtain ⟨stream, drawn, rfl⟩ := draw_eq_ok.1 chosen
    obtain ⟨same, rfl⟩ := pure_eq_ok.1 done
    cases same
    exact ⟨given, shape, stream, rfl, drawn, rfl, rfl⟩
  | foreign v =>
    obtain ⟨n, _, _, done⟩ := bind_eq_ok.1 done
    obtain ⟨i, _, _, done⟩ := bind_eq_ok.1 done
    split at done
    · cases done
    · cases (pure_eq_ok.1 done).1

omit [Scalar α] [Source σ α] in
theorem site_of_boundsOf {id : String} {b : Rect α} (found : boundsOf id s = .ok b t) : s = t := by
  obtain ⟨d, s', looked, found⟩ := bind_eq_ok.1 found
  cases looked
  exact (lift_eq_ok.1 found).2

theorem still_nextAttachment (style : ConnectionStyle) (forward : Direction) (placed : List String)
    (last : String) :
    Still (nextAttachment style forward placed last : Work σ α (String × Attachment α)) := by
  cases style with
  | linear => exact .pure _
  | branching => exact (Still.draw _).bind fun _ => (Still.draw _).bind fun _ => .pure _

/-- The room that is placed is stamped with what was drawn for it. -/
theorem stamped_builtRoom (j : Job α) (roomId : String) {stream : σ} {bounds : Rect α}
    {shape : RoomShape} {doors : Int} (draws : p.Draws stream bounds shape doors)
    (tags : List (Value α)) {d : Draft α} :
    (j.builtRoom roomId p vars shape doors bounds tags (Placement.overlaps bounds d.placed)).Stamped
      j.node.id p vars stream d.rooms where
  source := rfl
  stamp := by
    refine ⟨shape, doors, draws, ?_⟩
    have meets : Placement.overlaps bounds d.placed = d.rooms.any fun r => bounds.intersects r.bounds := by
      simp [Placement.overlaps, Draft.placed, Function.comp_def]
    rw [builtRoom, meets]
    rfl

/-- Building a room is one stride. -/
theorem stride_buildRoom {roomId : String} {a : Attachment α}
    (done : j.buildRoom roomId p f a s = .ok () t) : j.Stride p f.vars s t := by
  have later := j.advances_buildRoom roomId p f a done
  obtain ⟨width, _, across, done⟩ := bind_eq_ok.1 done
  obtain ⟨s₁, wide, rfl⟩ := draw_eq_ok.1 across
  obtain ⟨height, _, down, done⟩ := bind_eq_ok.1 done
  obtain ⟨s₂, high, rfl⟩ := draw_eq_ok.1 down
  obtain ⟨chosen, _, shaped, done⟩ := bind_eq_ok.1 done
  obtain ⟨doors, _, numbered, done⟩ := bind_eq_ok.1 done
  obtain ⟨s₄, counted, rfl⟩ := draw_eq_ok.1 numbered
  -- Where the room is placed from makes no difference to what is drawn for it.
  obtain ⟨anchor, direction, lateral⟩ := a
  cases anchor
  on_goal 1 => obtain ⟨ref, _, found, done⟩ := bind_eq_ok.1 done
  on_goal 2 => obtain ⟨ref, _, found, done⟩ := bind_eq_ok.1 done
  on_goal 1 => obtain ⟨_, rfl⟩ := pure_eq_ok.1 found
  on_goal 2 => obtain rfl := site_of_boundsOf found
  all_goals
    obtain ⟨_, _, looked, done⟩ := bind_eq_ok.1 done
    cases looked
    obtain ⟨⟨bounds, overlapped⟩, _, tried, done⟩ := bind_eq_ok.1 done
    obtain ⟨_, placed, rfl⟩ := draw_eq_ok.1 tried
    obtain ⟨name, _, given, ended⟩ := bind_eq_ok.1 done
    obtain ⟨rfl, rfl⟩ := lift_eq_ok.1 given
    obtain ⟨shapes, shape, s₃, proper, drawn, rfl, rfl⟩ := drawn_of_chooseShape shaped
    obtain ⟨rfl, rfl, rfl⟩ := Placement.kept_of_placeBounds placed
    have draws : p.Draws s.stream bounds shape doors :=
      ⟨shapes, proper, s₁, s₂, s₃, s₄, wide, high, drawn, counted⟩
    obtain ⟨given, rooms⟩ : ∃ given, t.draft.rooms = s.draft.rooms ++ [j.builtRoom roomId p f.vars shape
        doors bounds given (Placement.overlaps bounds s.draft.placed)] := by
      split at ended
      · obtain ⟨_, _, told, ended⟩ := bind_eq_ok.1 ended
        obtain ⟨_, rfl⟩ := lift_eq_ok.1 told
        obtain ⟨_, _, warned, added⟩ := bind_eq_ok.1 ended
        cases warned
        exact rooms_of_addTagged added
      · exact rooms_of_addTagged ended
    exact .placed later (stamped_builtRoom j roomId draws given) rooms

theorem stride_connectRooms {anchors : List String} {roomId : String}
    (done : connectRooms anchors roomId s = .ok () t) : j.Stride p vars s t :=
  stride_of_still (still_connectRooms anchors roomId) (advances_connectRooms anchors roomId) done

theorem path_laterRooms {data : RoomChainData α} (ids : List String) {placed : List String}
    {last v : String} (done : j.laterRooms data p f placed last ids s = .ok v t) :
    ReflTransGen (j.Stride p f.vars) s t := by
  induction ids generalizing s placed last with
  | nil =>
    obtain ⟨_, rfl⟩ := pure_eq_ok.1 done
    exact .refl
  | cons id rest ih =>
    obtain ⟨⟨anchor, a⟩, s₁, attached, done⟩ := bind_eq_ok.1 done
    obtain ⟨_, s₂, built, done⟩ := bind_eq_ok.1 done
    obtain ⟨_, s₃, connected, done⟩ := bind_eq_ok.1 done
    have chosen : j.Stride p f.vars s s₁ :=
      stride_of_still (still_nextAttachment _ _ _ _) (advances_nextAttachment _ _ _ _) attached
    exact .head chosen (.head (stride_buildRoom built) (.head (stride_connectRooms connected) (ih done)))

/-- The work of a node that builds rooms goes by strides, with the variables of what came to it. -/
theorem path_perform {plan : RoomPlan α} (plans : j.node.plan? = some plan)
    {incoming : List (Fragment α)} {out : Outcome α} (done : j.perform incoming s = .ok out t) :
    ∃ p f, p.Keeps plan ∧ Fragment.merge incoming = .ok f ∧ ReflTransGen (j.Stride p f.vars) s t := by
  have prepared {p : CheckedPlan α} {f : Fragment α} {s₁ s₂ : Site σ α}
      (checked : j.checkedPlan plan s = .ok p s₁) (merged : j.single incoming s₁ = .ok f s₂) :
      p.Keeps plan ∧ Fragment.merge incoming = .ok f ∧ ReflTransGen (j.Stride p f.vars) s s₂ := by
    obtain ⟨_, _, ⟨_, keeps⟩, _⟩ := j.asks_checkedPlan (d := s.draft) plan checked
    obtain ⟨_, _, ⟨_, one⟩, _⟩ := j.asks_single (d := s₁.draft) incoming merged
    have first : j.Stride p f.vars s s₁ :=
      stride_of_still (j.still_checkedPlan _) (j.advances_checkedPlan _) checked
    have second : j.Stride p f.vars s₁ s₂ :=
      stride_of_still (j.still_single _) (j.advances_single _) merged
    exact ⟨keeps, one, .head first (.single second)⟩
  have continued {p : CheckedPlan α} {f g : Fragment α} {id : String} {s₁ s₂ : Site σ α}
      (went_on : continueFrom f id s₁ = .ok g s₂) : j.Stride p f.vars s₁ s₂ :=
    stride_of_still (still_continueFrom _ _) (advances_continueFrom _ _) went_on
  unfold perform at done
  unfold Node.plan? at plans
  cases data : j.node.data with
  | room d =>
    rw [data] at done plans
    cases plans
    obtain ⟨p, s₁, checked, done⟩ := bind_eq_ok.1 done
    obtain ⟨f, s₂, merged, done⟩ := bind_eq_ok.1 done
    obtain ⟨_, s₃, built, done⟩ := bind_eq_ok.1 done
    obtain ⟨_, s₄, connected, done⟩ := bind_eq_ok.1 done
    obtain ⟨g, s₅, went_on, done⟩ := bind_eq_ok.1 done
    obtain ⟨_, rfl⟩ := pure_eq_ok.1 done
    obtain ⟨keeps, one, path⟩ := prepared checked merged
    refine ⟨p, f, keeps, one, path.trans ?_⟩
    exact .head (stride_buildRoom built) (.head (stride_connectRooms connected) (.single (continued went_on)))
  | roomChain d =>
    rw [data] at done plans
    cases plans
    obtain ⟨p, s₁, checked, done⟩ := bind_eq_ok.1 done
    obtain ⟨f, s₂, merged, done⟩ := bind_eq_ok.1 done
    obtain ⟨n, s₃, counted, done⟩ := bind_eq_ok.1 done
    obtain ⟨keeps, one, path⟩ := prepared checked merged
    have numbered : j.Stride p f.vars s₂ s₃ :=
      stride_of_still (j.still_count _ _) (j.advances_count _ _) counted
    refine ⟨p, f, keeps, one, (path.tail numbered).trans ?_⟩
    cases ids : Placement.roomIds j.node.id n with
    | nil =>
      simp only [ids] at done
      obtain ⟨_, rfl⟩ := pure_eq_ok.1 done
      exact .refl
    | cons first rest =>
      simp only [ids] at done
      obtain ⟨_, s₄, built, done⟩ := bind_eq_ok.1 done
      obtain ⟨_, s₅, connected, done⟩ := bind_eq_ok.1 done
      obtain ⟨last, s₆, later, done⟩ := bind_eq_ok.1 done
      obtain ⟨g, s₇, went_on, done⟩ := bind_eq_ok.1 done
      obtain ⟨_, rfl⟩ := pure_eq_ok.1 done
      exact .head (stride_buildRoom built) (.head (stride_connectRooms connected)
        ((path_laterRooms _ later).tail (continued went_on)))
  | _ =>
    rw [data] at plans
    cases plans

/-- Along strides every new room is stamped with what was drawn from the same stream. -/
theorem each_of_path {Q : List (Room α) → Room α → Prop} {origin : σ}
    (path : ReflTransGen (j.Stride p vars) s t) (later : Source.Later origin s.stream)
    (stamped : ∀ before r, (∃ stream, Source.Later origin stream ∧
      r.Stamped j.node.id p vars stream before) → Q before r)
    (h : Room.Each Q s.draft.rooms) : Room.Each Q t.draft.rooms := by
  suffices both : Source.Later origin t.stream ∧ Room.Each Q t.draft.rooms from both.2
  induction path with
  | refl => exact ⟨later, h⟩
  | tail _ stride ih =>
    obtain ⟨before, kept⟩ := ih
    cases stride with
    | passed drawn rooms => exact ⟨ReflTransGen.trans before drawn, rooms ▸ kept⟩
    | placed drawn stamp rooms =>
      exact ⟨ReflTransGen.trans before drawn, rooms ▸ kept.snoc (stamped _ _ ⟨_, before, stamp⟩)⟩

end Job

end Dungeon
