/-!
# Characters in bytes

The characters that a row of bytes spells. A character takes one to four bytes; a longer spelling
than needed, half of a pair of code units, and a number that is no character are refused.
-/

namespace Dungeon.Text

/-- The first byte of a character: how many bytes follow it, its share of the code, and the least
code that needs as many bytes. -/
def leadByte (b : Nat) : Option (Nat × Nat × Nat) :=
  if b < 0x80 then some (0, b, 0)
  else if 0xC0 ≤ b && b < 0xE0 then some (1, b - 0xC0, 0x80)
  else if 0xE0 ≤ b && b < 0xF0 then some (2, b - 0xE0, 0x800)
  else if 0xF0 ≤ b && b < 0xF8 then some (3, b - 0xF0, 0x10000)
  else none

/-- Is the number the code of a character? -/
def isCode (n : Nat) : Bool := n < 0xD800 || (0xE000 ≤ n && n < 0x110000)

/-- The characters of bytes; `missing` bytes are still to come for the code so far. -/
def fromUtf8 (missing code least : Nat) : List Nat → Option (List Char)
  | [] => if missing = 0 then some [] else none
  | b :: rest =>
    match missing with
    | 0 =>
      match leadByte b with
      | some (0, code, _) => (fromUtf8 0 0 0 rest).map (Char.ofNat code :: ·)
      | some (n, code, least) => fromUtf8 n code least rest
      | none => none
    | n + 1 =>
      if 0x80 ≤ b && b < 0xC0 then
        let code := code * 0x40 + (b - 0x80)
        if n = 0 then
          if least ≤ code && isCode code then
            (fromUtf8 0 0 0 rest).map (Char.ofNat code :: ·)
          else none
        else fromUtf8 n code least rest
      else none

def ofUtf8? (bytes : List Nat) : Option (List Char) := fromUtf8 0 0 0 bytes

end Dungeon.Text
