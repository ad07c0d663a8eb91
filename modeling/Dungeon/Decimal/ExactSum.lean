import Dungeon.Decimal.Reading

/-!
# Exact sums of doubles

`exactSum` adds doubles without losing a bit and rounds once at the end. The running sum is a list
of parts that do not overlap, smallest first; each addition is split into its rounded result and
its error, and the errors are kept.
-/

namespace Dungeon.Decimal

/-- Why a list of doubles has no sum. -/
inductive NoSum
  /-- A part outgrew the range of doubles. -/
  | overflow
  /-- Infinities of both signs. -/
  | undefined
  deriving DecidableEq

/-- The exact sum so far. -/
structure Partials where
  /-- The parts that do not overlap, smallest first. -/
  parts : List Float
  /-- The sum of the infinite and undefined terms. -/
  special : Float
  /-- The sum of the infinite terms. -/
  infinite : Float

/-- Add `x` to the parts: the errors that remain, and the rounded sum. -/
def absorb : Float → List Float → List Float × Float
  | x, [] => ([], x)
  | x, y :: rest =>
    let (big, small) := if x.abs < y.abs then (y, x) else (x, y)
    let high := big + small
    let low := small - (high - big)
    let (kept, top) := absorb high rest
    (if low != 0 then low :: kept else kept, top)

def Partials.add (p : Partials) (x : Float) : Except NoSum Partials :=
  let (kept, top) := absorb x p.parts
  if top == 0 then .ok { p with parts := kept }
  else if top.isFinite then .ok { p with parts := kept ++ [top] }
  else if x.isFinite then .error .overflow
  else .ok { parts := [], special := p.special + x,
             infinite := if x.isNaN then p.infinite else p.infinite + x }

/-- Add the parts from the largest down until one does not fit; what is left decides a tie. -/
def collapse : Float → List Float → Float
  | high, [] => high
  | high, y :: rest =>
    let sum := high + y
    let low := y - (sum - high)
    if low == 0 then collapse sum rest
    else
      match rest with
      | z :: _ =>
        if (low < 0 && z < 0) || (low > 0 && z > 0) then
          let twice := low * 2
          let next := sum + twice
          if twice == next - sum then next else sum
        else sum
      | [] => sum

def Partials.total (p : Partials) : Except NoSum Float :=
  if p.special != 0 then
    if p.infinite.isNaN then .error .undefined else .ok p.special
  else
    match p.parts.reverse with
    | [] => .ok 0
    | top :: rest => .ok (collapse top rest)

/-- The sum of all terms, rounded once. -/
def exactSum (terms : List Float) : Except NoSum Float := do
  let p ← terms.foldlM Partials.add ⟨[], 0, 0⟩
  p.total

end Dungeon.Decimal
