import Dungeon.Work.Content
import Dungeon.Work.Paths
import Dungeon.Work.Rooms

/-!
# The work of a node

Each kind of node has its own work, which is given the fragments that arrived.
-/

namespace Dungeon

variable {σ α : Type} [Scalar α] [Source σ α]

/-- Do the work of a node. -/
def Job.perform (j : Job α) (incoming : List (Fragment α)) : Work σ α (Outcome α) :=
  match j.node.data with
  | .start d => j.start d
  | .output d => j.output d incoming
  | .room d => j.room d incoming
  | .roomChain d => j.roomChain d incoming
  | .branch d => j.branch d incoming
  | .merge _ => j.merge incoming
  | .spawnPoint d => j.spawnPoint d incoming
  | .lootDrop d => j.lootDrop d incoming
  | .encounter d => j.encounter d incoming
  | .prop d => j.prop d incoming
  | .randomSelect d => j.randomSelect d incoming
  | .sequence _ => j.sequence incoming
  | .condition d => j.condition d incoming
  | .distribution d => j.distribution d incoming

end Dungeon
