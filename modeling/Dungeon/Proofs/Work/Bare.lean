import Dungeon.Work.Node

/-!
# What a run reads of a node

Positions, labels and port types belong to the editor. A node stripped of them does the same work on
the same fragments, with the same draws, writes and failures.
-/

namespace Dungeon

variable {σ α β : Type}

/-- Only the id of a port counts. -/
def Port.bare (p : Port α) : Port α := { id := p.id, side := .input }

/-- The settings without the label. -/
def NodeData.bare : NodeData α → NodeData α
  | start d => .start { d with label := .null }
  | output d => .output { d with label := .null }
  | room d => .room { d with label := .null }
  | roomChain d => .roomChain { d with label := .null }
  | branch d => .branch { d with label := .null }
  | merge d => .merge { d with label := .null }
  | spawnPoint d => .spawnPoint { d with label := .null }
  | lootDrop d => .lootDrop { d with label := .null }
  | encounter d => .encounter { d with label := .null }
  | prop d => .prop { d with label := .null }
  | randomSelect d => .randomSelect { d with label := .null }
  | sequence d => .sequence { d with label := .null }
  | condition d => .condition { d with label := .null }
  | distribution d => .distribution { d with label := .null }

/-- The node without its position, its label and all of its ports but their ids. -/
def Node.bare (n : Node α) : Node α where
  id := n.id
  data := n.data.bare
  inputs := n.inputs.map Port.bare
  outputs := n.outputs.map Port.bare
  position := ⟨.whole 0, .whole 0⟩

/-- The edge without its label. -/
def Edge.bare (e : Edge α) : Edge α := { e with label := .null }

theorem NodeData.kind_bare (d : NodeData α) : d.bare.kind = d.kind := by cases d <;> rfl

/-- The job of the bare node. -/
def Job.bare (j : Job α) : Job α := { j with node := j.node.bare }

namespace Job

variable (j : Job α)

theorem kind_bare : j.bare.node.kind = j.node.kind := j.node.data.kind_bare

theorem everywhere_bare (f : Fragment α) : j.bare.everywhere f = j.everywhere f := by
  simp [everywhere, bare, Node.bare, Port.bare, Function.comp_def]

theorem only_bare (f : Fragment α) (chosen : String) : j.bare.only f chosen = j.only f chosen := by
  simp only [only, bare, Node.bare, List.map_map]
  rfl

theorem portId_bare (i : Nat) : j.bare.portId i = j.portId i := by
  simp [portId, bare, Node.bare, Port.bare, Function.comp_def]

theorem length_outputs_bare : j.bare.node.outputs.length = j.node.outputs.length := by
  simp [bare, Node.bare]

variable [Scalar α]

theorem paths_bare (f : Fragment α) (weights : List α) :
    j.bare.paths f weights = j.paths f weights := by
  simp only [paths, bare, Node.bare, List.zip_map_left, List.zipIdx_map, List.map_map]
  rfl

theorem single_bare (incoming : List (Fragment α)) :
    (j.bare.single incoming : Work σ α (Fragment α)) = j.single incoming := rfl

omit [Scalar α] in
theorem anchor_bare (f : Fragment α) : (j.bare.anchor f : Work σ α String) = j.anchor f := by
  unfold anchor
  rw [kind_bare]
  rfl

theorem pathWeights_bare (weights : Value α) :
    (j.bare.pathWeights weights : Work σ α (List α)) = j.pathWeights weights := by
  unfold pathWeights
  rw [length_outputs_bare]
  rfl

variable (incoming : List (Fragment α))

theorem output_bare (d : OutputData α) :
    (j.bare.output { d with label := .null } incoming : Work σ α (Outcome α)) =
      j.output d incoming := by
  unfold output
  simp only [single_bare, anchor_bare]
  rfl

theorem merge_bare : (j.bare.merge incoming : Work σ α (Outcome α)) = j.merge incoming := by
  unfold merge
  simp only [single_bare, everywhere_bare]

theorem sequence_bare :
    (j.bare.sequence incoming : Work σ α (Outcome α)) = j.sequence incoming := by
  unfold sequence
  simp only [single_bare, everywhere_bare]

theorem condition_bare (d : ConditionData α) :
    (j.bare.condition { d with label := .null } incoming : Work σ α (Outcome α)) =
      j.condition d incoming := by
  unfold condition
  simp only [single_bare, only_bare]
  rfl

variable [Source σ α]

omit [Scalar α] in
theorem count_bare (s : Setting CountRange α) (name : String) :
    (j.bare.count s name : Work σ α Nat) = j.count s name := rfl

theorem placeFrom_bare (roomId : String) (type : Value α) (metadata : Metadata α)
    (radius : Option α) (bounds : Rect α) (i n : Nat) :
    (j.bare.placeFrom roomId type metadata radius bounds i n : Work σ α (List (Entity α))) =
      j.placeFrom roomId type metadata radius bounds i n := by
  induction n generalizing i with
  | zero => rfl
  | succ n ih =>
    simp only [placeFrom, ih]
    rfl

theorem place_bare (roomId : String) (type : Value α) (metadata : Metadata α) (radius : Option α)
    (n : Nat) : (j.bare.place roomId type metadata radius n : Work σ α (List (Entity α))) =
      j.place roomId type metadata radius n := by
  simp only [place, placeFrom_bare]

theorem laterRooms_bare (d : RoomChainData α) (p : CheckedPlan α) (f : Fragment α)
    (placed : List String) (last : String) (ids : List String) :
    (j.bare.laterRooms { d with label := .null } p f placed last ids : Work σ α String) =
      j.laterRooms d p f placed last ids := by
  induction ids generalizing placed last with
  | nil => rfl
  | cons id rest ih =>
    simp only [laterRooms, ih]
    rfl

theorem start_bare (d : StartData α) :
    (j.bare.start { d with label := .null } : Work σ α (Outcome α)) = j.start d := by
  unfold start
  rw [everywhere_bare]

theorem room_bare (d : RoomData α) :
    (j.bare.room { d with label := .null } incoming : Work σ α (Outcome α)) =
      j.room d incoming := by
  unfold room
  simp only [single_bare, everywhere_bare]
  rfl

theorem roomChain_bare (d : RoomChainData α) :
    (j.bare.roomChain { d with label := .null } incoming : Work σ α (Outcome α)) =
      j.roomChain d incoming := by
  unfold roomChain
  simp only [single_bare, everywhere_bare, count_bare, laterRooms_bare]
  rfl

theorem branch_bare (d : BranchData α) :
    (j.bare.branch { d with label := .null } incoming : Work σ α (Outcome α)) =
      j.branch d incoming := by
  unfold branch
  simp only [single_bare, pathWeights_bare, paths_bare, portId_bare]

theorem randomSelect_bare (d : RandomSelectData α) :
    (j.bare.randomSelect { d with label := .null } incoming : Work σ α (Outcome α)) =
      j.randomSelect d incoming := by
  have equal : (j.bare.node.outputs.map fun _ => (.real 1.0 : Value α)) =
      j.node.outputs.map fun _ => .real 1.0 := by
    simp [bare, Node.bare, Function.comp_def]
  unfold randomSelect
  simp only [single_bare, pathWeights_bare, only_bare, portId_bare, equal]
  rfl

theorem spawnPoint_bare (d : SpawnPointData α) :
    (j.bare.spawnPoint { d with label := .null } incoming : Work σ α (Outcome α)) =
      j.spawnPoint d incoming := by
  unfold spawnPoint
  simp only [single_bare, anchor_bare, count_bare, place_bare]
  rfl

theorem lootDrop_bare (d : LootDropData α) :
    (j.bare.lootDrop { d with label := .null } incoming : Work σ α (Outcome α)) =
      j.lootDrop d incoming := by
  unfold lootDrop
  simp only [single_bare, anchor_bare, count_bare, place_bare]
  rfl

theorem encounter_bare (d : EncounterData α) :
    (j.bare.encounter { d with label := .null } incoming : Work σ α (Outcome α)) =
      j.encounter d incoming := by
  unfold encounter
  simp only [single_bare, anchor_bare, count_bare, place_bare]
  rfl

theorem prop_bare (d : PropData α) :
    (j.bare.prop { d with label := .null } incoming : Work σ α (Outcome α)) =
      j.prop d incoming := by
  unfold prop
  simp only [single_bare, anchor_bare, count_bare, place_bare]

theorem distribution_bare (d : DistributionData α) :
    (j.bare.distribution { d with label := .null } incoming : Work σ α (Outcome α)) =
      j.distribution d incoming := by
  unfold distribution
  simp only [single_bare, everywhere_bare]
  rfl

/-- A bare node does the same work. -/
theorem perform_bare : (j.bare.perform incoming : Work σ α (Outcome α)) = j.perform incoming := by
  unfold perform
  have data : j.bare.node.data = j.node.data.bare := rfl
  rw [data]
  cases j.node.data with
  | start d => exact j.start_bare d
  | output d => exact j.output_bare incoming d
  | room d => exact j.room_bare incoming d
  | roomChain d => exact j.roomChain_bare incoming d
  | branch d => exact j.branch_bare incoming d
  | merge d => exact j.merge_bare incoming
  | spawnPoint d => exact j.spawnPoint_bare incoming d
  | lootDrop d => exact j.lootDrop_bare incoming d
  | encounter d => exact j.encounter_bare incoming d
  | prop d => exact j.prop_bare incoming d
  | randomSelect d => exact j.randomSelect_bare incoming d
  | sequence d => exact j.sequence_bare incoming
  | condition d => exact j.condition_bare incoming d
  | distribution d => exact j.distribution_bare incoming d

end Job

end Dungeon
