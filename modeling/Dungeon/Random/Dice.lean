import Dungeon.Random.Draw
import Dungeon.Random.KeyedHash
import Dungeon.Random.Stream
import Dungeon.Word

/-!
# Dice

The streams of a run: each node draws from a stream of its own, found from the root seed and the
node's id alone.
-/

namespace Dungeon

open Dungeon.Random

instance : Source Stream Float where
  unit := Stream.unit
  upTo := Stream.upTo

/-- The low 64 bits of a seed. -/
def seedWord (seed : Int) : UInt64 := (seed % Word.count64).toNat.toUInt64

/-- The personalisation of node streams. -/
def streamPerson : List UInt8 := "dforge-node".toUTF8.toList

/-- The seed of a node's stream. -/
def nodeSeed (seed : Int) (nodeId : String) : UInt64 :=
  KeyedHash.digest streamPerson (seedWord seed) nodeId.toUTF8.toList

/-- The stream of a node. -/
def nodeStream (seed : Int) (nodeId : String) : Stream := Stream.ofSeed (nodeSeed seed nodeId)

/-- A stream that remembers the seed it starts again from. -/
structure Dice where
  seed : Int
  stream : Stream

namespace Dice

def ofSeed (seed : Int) : Dice := ⟨(seedWord seed).toNat, Stream.ofSeed (seedWord seed)⟩

def ofNode (seed : Int) (nodeId : String) : Dice := ofSeed (nodeSeed seed nodeId).toNat

/-- Start again, from a new seed when one is given. -/
def reset (d : Dice) (seed : Option Int) : Dice := ofSeed (seed.getD d.seed)

/-- Go back to a kept state, in whole or in part. -/
def restore (d kept : Dice) (seed stream : Bool) : Dice :=
  ⟨if seed then kept.seed else d.seed, if stream then kept.stream else d.stream⟩

instance : Source Dice Float where
  unit d := let (u, s) := Stream.unit d.stream; (u, { d with stream := s })
  upTo r d := let (n, s) := Stream.upTo r d.stream; (n, { d with stream := s })

end Dice

end Dungeon
