/-!
# Blanks

The characters that may stand around a word or a number, and the texts without them.
-/

namespace Dungeon.Text

/-- White space around a number: the ASCII controls from tab to carriage return, the next line, and
the space characters. -/
def isSpace (c : Char) : Bool :=
  let n := c.toNat
  (0x09 ≤ n && n ≤ 0x0D) || n == 0x20 || n == 0x85 || n == 0xA0 || n == 0x1680
    || (0x2000 ≤ n && n ≤ 0x200A) || n == 0x2028 || n == 0x2029 || n == 0x202F || n == 0x205F
    || n == 0x3000

/-- White space around a word, the four separators of the ASCII controls included. -/
def isBlank (c : Char) : Bool := isSpace c || (0x1C ≤ c.toNat && c.toNat ≤ 0x1F)

/-- Without the characters of a class at both ends. -/
def trim (outside : Char → Bool) (cs : List Char) : List Char :=
  ((cs.dropWhile outside).reverse.dropWhile outside).reverse

end Dungeon.Text
