import Dungeon.Graph.Blueprint
import Dungeon.Main
import Dungeon.Number.Arithmetic
import Dungeon.Proofs.Graph.Sound
import Dungeon.Proofs.Run.Delivery
import Dungeon.Random.Mixed
import Dungeon.Proofs.Work.Survival
import Dungeon.Proofs.Run.Liveness
import Dungeon.Proofs.Run.Alike
import Dungeon.Proofs.Run.Reordering
import Dungeon.Proofs.Graph.WellFormed
import Dungeon.Proofs.Work.Contribution
import Dungeon.Proofs.Work.Rooted
import Dungeon.Proofs.Work.Adds
import Dungeon.Proofs.Work.Building
import Dungeon.Proofs.Work.Furnishing
import Dungeon.Proofs.Work.Performing
import Dungeon.Proofs.Run.Growth
import Dungeon.Proofs.Run.Apart
import Dungeon.Proofs.Run.Connected
import Dungeon.Proofs.Run.Decoration
import Dungeon.Proofs.Failing
import Dungeon.Proofs.Constraint.Evaluation
import Dungeon.Proofs.Parameter
import Dungeon.Proofs.Generation
import Dungeon.Proofs.Work.Overlap
import Dungeon.Proofs.Run.Overlap
import Dungeon.Proofs.Work.Sketch
import Dungeon.Proofs.Work.Parallel
import Dungeon.Proofs.Work.Retrying
import Dungeon.Proofs.Run.Retries
import Dungeon.Proofs.Graph.Reading
import Dungeon.Proofs.Graph.Grouping
import Dungeon.Proofs.Batch.Cancelling
import Dungeon.Proofs.Batch.Independence
import Dungeon.Proofs.Run.Stopping
import Dungeon.Proofs.Work.Writing
import Dungeon.Proofs.Run.Naming
import Dungeon.Proofs.Run.Labelling
import Dungeon.Proofs.Search.Distance
import Dungeon.Proofs.Search.Canonical
import Dungeon.Proofs.RoomGraph
import Dungeon.Proofs.Reporting
import Dungeon.Proofs.Exact
import Dungeon.Proofs.Placement
import Dungeon.Proofs.Work.Pieces
import Dungeon.Proofs.Work.Housing
import Dungeon.Proofs.Run.Housing
import Dungeon.Proofs.Attempts
import Dungeon.Proofs.Batch.Stopping
import Dungeon.Proofs.Constraint.Distance
import Dungeon.Proofs.Constraint.Progression
import Dungeon.Proofs.Constraint.Order
import Dungeon.Proofs.Graph.Cycle
import Dungeon.Proofs.Run.Selection
import Dungeon.Proofs.Work.Arity
import Dungeon.Proofs.Merging
import Dungeon.Proofs.Weighing
import Dungeon.Proofs.Work.Straight
import Dungeon.Proofs.Resolving
import Dungeon.Proofs.Statistics.Partition
import Dungeon.Proofs.Statistics.Order
import Dungeon.Proofs.Graph.Ports
import Dungeon.Proofs.Graph.EdgeIds
import Dungeon.Proofs.Marking
import Dungeon.Proofs.Graph.Coding
import Dungeon.Proofs.Drawing
import Dungeon.Proofs.Work.Variables
import Dungeon.Proofs.Work.Stamping
import Dungeon.Proofs.Run.Stamping
import Dungeon.Proofs.Work.Anchoring
import Dungeon.Proofs.Run.Anchoring
