import Dungeon.Table

/-!
# Search

Breadth-first search in a table of neighbours. A queue holds the nodes that have been found and not been
visited, and a table marks each node that has been found. One search visits all nodes in the queue; the
search for a path stops at its target and goes back along the parents.
-/

namespace Dungeon

/-- The neighbours of each node, in the order in which a search takes them. -/
abbrev Adjacency := Table String (List String)

namespace Adjacency

variable {β : Type}

def next (adj : Adjacency) (node : String) : List String := (adj.find? node).getD []

/-- Mark the neighbours that have not been found before, and put them at the end of the queue. -/
def discover (mark : β) : List String → Table String β × List String → Table String β × List String
  | [], state => state
  | n :: rest, (found, queue) =>
    if found.contains n then discover mark rest (found, queue)
    else discover mark rest (found.insert n mark, queue ++ [n])

/-- Visit the nodes in the queue. A node is marked according to the one that it is reached from. -/
def explore (adj : Adjacency) (mark : Table String β → String → β) :
    Nat → List String → Table String β → Table String β
  | 0, _, found => found
  | _ + 1, [], found => found
  | limit + 1, current :: queue, found =>
    let after := discover (mark found current) (adj.next current) (found, queue)
    explore adj mark limit after.2 after.1

/-- The source and its neighbours and theirs: no node is in the queue twice, so no more are visited. -/
def reach (adj : Adjacency) : Nat := adj.values.flatten.length + 1

/-- How many hops away from the source each node is, for a source that is a key. -/
def distances (adj : Adjacency) (source : String) : Table String Nat :=
  if adj.contains source then
    adj.explore (fun found current => (found.find? current).getD 0 + 1) adj.reach [source]
      ⟨[(source, 0)]⟩
  else Table.empty

/-- The nodes that a source leads to, in the order in which they are found. -/
def reachable (adj : Adjacency) (source : String) : List String :=
  (adj.explore (fun _ _ => ()) adj.reach [source] ⟨[(source, ())]⟩).keys

/-- A node, its parent, the parent of that one and so on. -/
def ancestors (parents : Table String (Option String)) : Nat → String → List String
  | 0, node => [node]
  | steps + 1, node =>
    match (parents.find? node).join with
    | none => [node]
    | some parent => node :: ancestors parents steps parent

/-- Visit the nodes in the queue up to the target, and go back from there. -/
def seek (adj : Adjacency) (target : String) :
    Nat → List String → Table String (Option String) → Option (List String)
  | 0, _, _ => none
  | _ + 1, [], _ => none
  | limit + 1, current :: queue, parents =>
    if current = target then some (ancestors parents parents.entries.length current).reverse
    else
      let after := discover (some current) (adj.next current) (parents, queue)
      seek adj target limit after.2 after.1

/-- The nodes on a shortest path, the source first. -/
def shortestPath (adj : Adjacency) (source target : String) : Option (List String) :=
  if adj.contains source then adj.seek target adj.reach [source] ⟨[(source, none)]⟩ else none

/-- Add one neighbour at the end. -/
def link (adj : Adjacency) (a b : String) : Adjacency := adj.adjust a [] (· ++ [b])

end Adjacency

end Dungeon
