/-!
# Seed expansion

A 64-bit seed is spread over a pool of four 32-bit words, every word is mixed into every other one,
and the pool is read out as four 64-bit words.
-/

namespace Dungeon.Random.Expansion

/-- The constants of the running multiplier: its start and its factor. -/
structure Multiplier where
  start : UInt32
  factor : UInt32

def entering : Multiplier := ⟨0x43B0D7E5, 0x931E8875⟩

def leaving : Multiplier := ⟨0x8B51F9DD, 0x58F38DED⟩

/-- Hash a word; the running multiplier moves on. -/
def hash (factor : UInt32) (v h : UInt32) : UInt32 × UInt32 :=
  let h' := h * factor
  let w := (v ^^^ h) * h'
  (w ^^^ (w >>> 16), h')

def mix (x y : UInt32) : UInt32 :=
  let r := 0xCA01F9DD * x - 0x4973F715 * y
  r ^^^ (r >>> 16)

structure Pool where
  words : Vector UInt32 4
  multiplier : UInt32

/-- Fill one word of the pool. -/
def Pool.fill (p : Pool) (i : Fin 4) (word : UInt32) : Pool :=
  let (v, h) := hash entering.factor word p.multiplier
  ⟨p.words.set i v, h⟩

/-- Mix one word of the pool into another one. -/
def Pool.stir (p : Pool) (source target : Fin 4) : Pool :=
  if source = target then p
  else
    let (v, h) := hash entering.factor p.words[source] p.multiplier
    ⟨p.words.set target (mix p.words[target] v), h⟩

def indices : List (Fin 4) := [0, 1, 2, 3]

/-- The pool of a seed. -/
def pool (seed : UInt64) : Pool :=
  let p : Pool := ⟨Vector.replicate 4 0, entering.start⟩
  let p := p.fill 0 seed.toUInt32
  let p := p.fill 1 (seed >>> 32).toUInt32
  let p := p.fill 2 0
  let p := p.fill 3 0
  indices.foldl (fun p source => indices.foldl (fun p target => p.stir source target) p) p

/-- Read `n` words out of the pool, going round it. -/
def read (words : Vector UInt32 4) : Nat → Nat → UInt32 → List UInt32
  | 0, _, _ => []
  | n + 1, i, h =>
    let (v, h') := hash leaving.factor words[i % 4] h
    v :: read words n (i + 1) h'

/-- Pairs of 32-bit words as 64-bit words, the low half first. -/
def pairs : List UInt32 → List UInt64
  | low :: high :: rest => ((high.toUInt64 <<< 32) ||| low.toUInt64) :: pairs rest
  | _ => []

/-- The four words that start a generator. -/
def expand (seed : UInt64) : List UInt64 :=
  pairs (read (pool seed).words 8 0 leaving.start)

end Dungeon.Random.Expansion
