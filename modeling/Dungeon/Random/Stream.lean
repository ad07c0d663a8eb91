import Dungeon.Random.Expansion
import Dungeon.Word

/-!
# Streams

A linear congruential generator modulo `2 ^ 128` whose outputs are permuted: the two halves of the
state are combined and rotated by its top bits. Draws of 32 bits take half an output and keep the
other half for the next such draw.
-/

namespace Dungeon.Random

structure Stream where
  state : BitVec 128
  increment : BitVec 128
  /-- A half output waits for the next draw of 32 bits. -/
  waiting : Bool := false
  /-- The half output kept last. -/
  half : UInt32 := 0
  deriving DecidableEq

namespace Stream

def multiplier : BitVec 128 := 0x2360ED051FC65DA44385DF649FCCF645#128

/-- One step of the congruence. -/
def step (s : Stream) : Stream := { s with state := s.state * multiplier + s.increment }

def wide (high low : UInt64) : BitVec 128 := high.toBitVec ++ low.toBitVec

def ofSeed (seed : UInt64) : Stream :=
  match Expansion.expand seed with
  | [a, b, c, d] =>
    let increment := (wide c d <<< 1) ||| 1#128
    let s : Stream := { state := 0#128, increment }
    let s := s.step
    { s with state := s.state + wide a b }.step
  | _ => { state := 0#128, increment := 1#128 }

/-- The output of a state. -/
def output (state : BitVec 128) : UInt64 :=
  let high := UInt64.ofBitVec (state.extractLsb' 64 64)
  let low := UInt64.ofBitVec (state.extractLsb' 0 64)
  let turn := (high >>> 58)
  let x := high ^^^ low
  (x >>> turn) ||| (x <<< ((64 - turn) &&& 63))

def next64 (s : Stream) : UInt64 × Stream :=
  let s := s.step
  (output s.state, s)

def next32 (s : Stream) : UInt32 × Stream :=
  if s.waiting then (s.half, { s with waiting := false })
  else
    let (word, s) := s.next64
    (word.toUInt32, { s with waiting := true, half := (word >>> 32).toUInt32 })

/-- A double in `[0, 1)` from the top 53 bits of an output. -/
def unit (s : Stream) : Float × Stream :=
  let (word, s) := s.next64
  ((word >>> 11).toFloat * Float.ofBits 0x3CA0000000000000, s)

/-- How often a bounded draw may start again. Each retry has at most an even chance to be needed. -/
def retries : Nat := 1024

/-- A number up to `r` from draws below `count`: the high part of draw times `r + 1`, drawn again
while the low part is among the few that would favour some results. -/
def bounded (count : Nat) (draw : Stream → Nat × Stream) (r : Nat) : Nat → Stream → Nat × Stream
  | 0, s => (0, s)
  | fuel + 1, s =>
    let (u, s) := draw s
    let m := u * (r + 1)
    if m % count < (count - 1 - r) % (r + 1) then bounded count draw r fuel s
    else (m / count, s)

def draw32 (s : Stream) : Nat × Stream := let (w, s) := s.next32; (w.toNat, s)

def draw64 (s : Stream) : Nat × Stream := let (w, s) := s.next64; (w.toNat, s)

/-- A number from `0` to `r`, for `r` below `2 ^ 64`. Nothing is drawn for `r = 0`. -/
def upTo (r : Nat) (s : Stream) : Nat × Stream :=
  if r = 0 then (0, s)
  else if r < Word.count32 - 1 then bounded Word.count32 draw32 r retries s
  else if r = Word.count32 - 1 then draw32 s
  else if r < Word.count64 - 1 then bounded Word.count64 draw64 r retries s
  else draw64 s

theorem bounded_le {count : Nat} {draw : Stream → Nat × Stream} (below : ∀ s, (draw s).1 < count)
    (r fuel : Nat) (s : Stream) : (bounded count draw r fuel s).1 ≤ r := by
  induction fuel generalizing s with
  | zero => exact Nat.zero_le r
  | succ fuel ih =>
    unfold bounded
    dsimp only
    split
    next => exact ih _
    next =>
      have positive : 0 < count := Nat.zero_lt_of_lt (below s)
      have product : (draw s).1 * (r + 1) < count * (r + 1) :=
        Nat.mul_lt_mul_of_pos_right (below s) (Nat.succ_pos r)
      exact Nat.lt_succ_iff.1 (Nat.div_lt_of_lt_mul product)

theorem draw32_lt (s : Stream) : (draw32 s).1 < Word.count32 := s.next32.1.toNat_lt

theorem draw64_lt (s : Stream) : (draw64 s).1 < Word.count64 := s.next64.1.toNat_lt

/-- A stream keeps to its bounds. -/
theorem upTo_le (r : Nat) (s : Stream) : (upTo r s).1 ≤ r := by
  have small := draw32_lt s
  have large := draw64_lt s
  unfold upTo
  split
  next => exact Nat.zero_le r
  next =>
    split
    next => exact bounded_le draw32_lt r _ s
    next =>
      split
      next same => omega
      next =>
        split
        next => exact bounded_le draw64_lt r _ s
        next => omega

end Stream

end Dungeon.Random
