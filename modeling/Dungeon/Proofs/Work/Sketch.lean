import Dungeon.Fragment
import Dungeon.Proofs.Work.Contribution
import Dungeon.Proofs.Work.Rooted

/-!
# Sketches

A sketch of a draft leaves out where things are: bounds, positions and doors, with the metadata of
rooms, which speaks of shapes and doors, and the warnings. Which rooms are connected is drawn in only
on demand. A draft that gains a contribution has the sketch that gains the sketch of the contribution.
-/

namespace Dungeon

variable {α : Type} [Scalar α]

/-- Where everything is in a sketch. -/
def Point.origin : Point α := ⟨0.0, 0.0⟩

def Entity.sketch (e : Entity α) : Entity α := { e with position := .origin }

def SpawnPoint.sketch (s : SpawnPoint α) : SpawnPoint α := { s with position := .origin }

def Exit.sketch (x : Exit α) : Exit α := { x with position := .origin }

def Room.sketch (r : Room α) : Room α :=
  { r with
    bounds := ⟨0.0, 0.0, 0.0, 0.0⟩
    entities := r.entities.map Entity.sketch
    metadata := [] }

/-- A connection drawn from its ends alone. -/
def Connection.ofWay (way : String × String) : Connection α := ⟨way.1, way.2, .origin, .origin⟩

def Connection.sketch (c : Connection α) : Connection α := .ofWay c.way

/-- What is added to a sketch; `ways` says whether connections are drawn in. -/
def Contribution.sketch (ways : Bool) (k : Contribution α) : Contribution α where
  content := k.content.map fun x => (x.1, x.2.sketch)
  rooms := k.rooms.map Room.sketch
  connections := if ways then k.connections.map Connection.sketch else []
  spawnPoints := k.spawnPoints.map SpawnPoint.sketch
  exits := k.exits.map Exit.sketch
  root := k.root

def Draft.sketch (ways : Bool) (d : Draft α) : Draft α where
  rooms := d.rooms.map Room.sketch
  connections := if ways then d.connections.map Connection.sketch else []
  spawnPoints := d.spawnPoints.map SpawnPoint.sketch
  exits := d.exits.map Exit.sketch
  startRoom := d.startRoom
  startOffset := .origin

theorem Room.sketch_furnish (ways : Bool) (k : Contribution α) (r : Room α) :
    (r.furnish k).sketch = r.sketch.furnish (k.sketch ways) := by
  have into : (k.sketch ways).into r.id = (k.into r.id).map Entity.sketch := by
    rw [Contribution.into, Contribution.sketch, List.filter_map, List.map_map, Contribution.into,
      List.map_map]
    rfl
  show ({ r.sketch with entities := (r.entities ++ k.into r.id).map Entity.sketch } : Room α) = _
  rw [List.map_append, ← into]
  rfl

namespace Draft

variable {ways : Bool}

theorem sketch_gain (d : Draft α) (k : Contribution α) :
    (d.gain k).sketch ways = (d.sketch ways).gain (k.sketch ways) := by
  have rooms : (d.gain k).rooms.map Room.sketch =
      (d.rooms.map Room.sketch).map (Room.furnish (k.sketch ways)) ++ k.rooms.map Room.sketch := by
    rw [gain, List.map_append, List.map_map, List.map_map]
    exact congrArg (· ++ _) (List.map_congr_left fun r _ => r.sketch_furnish ways k)
  have connections : (if ways then (d.gain k).connections.map Connection.sketch else []) =
      (if ways then d.connections.map Connection.sketch else []) ++
        if ways then k.connections.map Connection.sketch else [] := by
    cases ways
    · rfl
    · exact List.map_append
  rw [sketch, rooms, connections]
  simp [gain, sketch, Contribution.sketch]

@[simp] theorem ids_sketch (d : Draft α) : (d.sketch ways).ids = d.ids := by
  simp [ids, sketch, Room.sketch, Function.comp_def]

/-- Drafts of one sketch have the same rooms. -/
theorem hasRoom_of_sketch {d e : Draft α} (same : d.sketch ways = e.sketch ways) :
    e.hasRoom = d.hasRoom := by
  have ids : e.ids = d.ids := by
    have shown : (d.sketch ways).ids = (e.sketch ways).ids := congrArg Draft.ids same
    rw [ids_sketch, ids_sketch] at shown
    exact shown.symm
  funext id
  rw [Bool.eq_iff_iff, hasRoom_iff, hasRoom_iff, ids]

theorem startRoom_of_sketch {d e : Draft α} (same : d.sketch ways = e.sketch ways) :
    d.startRoom = e.startRoom :=
  (congrArg startRoom same : (d.sketch ways).startRoom = (e.sketch ways).startRoom)

/-- Gaining contributions of one sketch keeps sketches the same. -/
theorem sketch_gain_congr {d e : Draft α} {k l : Contribution α}
    (same : d.sketch ways = e.sketch ways) (added : k.sketch ways = l.sketch ways) :
    (d.gain k).sketch ways = (e.gain l).sketch ways := by
  rw [sketch_gain, same, added, ← sketch_gain]

end Draft

namespace Fragment

/-- The fragment without the place from which the next room grows. -/
def unplaced (f : Fragment α) : Fragment α := { f with cursor := ⟨0.0, 0.0⟩ }

/-- Fragments that only their places tell apart. -/
theorem eq_of_unplaced {f g : Fragment α} (same : f.unplaced = g.unplaced) :
    g = { f with cursor := g.cursor } := by
  cases f
  cases g
  simpa [unplaced] using same.symm

theorem unplaced_join (first : Fragment α) (rest : List (Fragment α)) :
    join first.unplaced (rest.map unplaced) = (join first rest).unplaced := by
  have anchors : ((first.unplaced :: rest.map unplaced).flatMap anchors) =
      (first :: rest).flatMap anchors := by
    rw [← List.map_cons (f := unplaced), List.flatMap_map]
    rfl
  have folded {γ : Type} (step : γ → Fragment α → γ) (start : γ)
      (blind : ∀ v f, step v f.unplaced = step v f) :
      (first.unplaced :: rest.map unplaced).foldl step start =
        (first :: rest).foldl step start := by
    rw [← List.map_cons (f := unplaced), List.foldl_map]
    simp only [blind]
  unfold join
  dsimp only
  rw [anchors, folded _ _ fun _ _ => rfl, folded _ _ fun _ _ => rfl]
  rfl

theorem unplaced_merge (fs : List (Fragment α)) :
    merge (fs.map unplaced) = unplaced <$> merge fs := by
  match fs with
  | [] => rfl
  | [f] => rfl
  | f :: g :: rest => exact congrArg Except.ok (unplaced_join f (g :: rest))

/-- Fragments that only their places tell apart merge into such fragments. -/
theorem unplaced_of_merge {fs gs : List (Fragment α)} {f g : Fragment α}
    (same : fs.map unplaced = gs.map unplaced) (left : merge fs = .ok f) (right : merge gs = .ok g) :
    f.unplaced = g.unplaced := by
  have merged : (unplaced <$> merge fs : Except Fault (Fragment α)) = unplaced <$> merge gs := by
    rw [← unplaced_merge, ← unplaced_merge, same]
  rw [left, right] at merged
  exact Except.ok.inj merged

end Fragment

end Dungeon
