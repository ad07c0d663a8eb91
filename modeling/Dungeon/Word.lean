/-!
# Words

The ranges of numbers that fit words of 32 and 64 bits.
-/

namespace Dungeon.Word

/-- How many words of 32 bits there are. -/
def count32 : Nat := 0x100000000

/-- How many words of 64 bits there are. -/
def count64 : Nat := 0x10000000000000000

/-- The least number that is a word of 64 bits with a sign. -/
def least : Int := -0x8000000000000000

/-- The greatest number that is a word of 64 bits with a sign. -/
def greatest : Int := 0x7FFFFFFFFFFFFFFF

/-- Is the number a word of 64 bits with a sign? -/
def isSigned (n : Int) : Bool := least ≤ n && n ≤ greatest

/-- Is the number a word of 64 bits, with or without a sign? -/
def isWord (n : Int) : Bool := least ≤ n && n < count64

end Dungeon.Word
