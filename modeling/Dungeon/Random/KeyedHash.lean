import Dungeon.Word

/-!
# Keyed hash

BLAKE2b with a key and a personalisation, cut to eight bytes. The stream of a node is keyed by the
root seed and hashed from the node's id, so that no stream depends on another one.
-/

namespace Dungeon.Random.KeyedHash

abbrev Words := Vector UInt64 16

/-- The initial chaining words. -/
def initial : Vector UInt64 8 := #v[
  0x6A09E667F3BCC908, 0xBB67AE8584CAA73B, 0x3C6EF372FE94F82B, 0xA54FF53A5F1D36F1,
  0x510E527FADE682D1, 0x9B05688C2B3E6C1F, 0x1F83D9ABFB41BD6B, 0x5BE0CD19137E2179]

/-- The order in which each round takes the message words. -/
def schedule : List (Vector (Fin 16) 16) := [
  #v[0, 1, 2, 3, 4, 5, 6, 7, 8, 9, 10, 11, 12, 13, 14, 15],
  #v[14, 10, 4, 8, 9, 15, 13, 6, 1, 12, 0, 2, 11, 7, 5, 3],
  #v[11, 8, 12, 0, 5, 2, 15, 13, 10, 14, 3, 6, 7, 1, 9, 4],
  #v[7, 9, 3, 1, 13, 12, 11, 14, 2, 6, 5, 10, 4, 0, 15, 8],
  #v[9, 0, 5, 7, 2, 4, 10, 15, 14, 1, 11, 12, 6, 8, 3, 13],
  #v[2, 12, 6, 10, 0, 11, 8, 3, 4, 13, 7, 5, 15, 14, 1, 9],
  #v[12, 5, 1, 15, 14, 13, 4, 10, 0, 7, 6, 3, 9, 2, 8, 11],
  #v[13, 11, 7, 14, 12, 1, 3, 9, 5, 0, 15, 4, 8, 6, 2, 10],
  #v[6, 15, 14, 9, 11, 3, 0, 8, 12, 2, 13, 7, 1, 4, 10, 5],
  #v[10, 2, 8, 4, 7, 6, 1, 5, 15, 11, 9, 14, 3, 12, 13, 0],
  #v[0, 1, 2, 3, 4, 5, 6, 7, 8, 9, 10, 11, 12, 13, 14, 15],
  #v[14, 10, 4, 8, 9, 15, 13, 6, 1, 12, 0, 2, 11, 7, 5, 3]]

def rotateRight (x : UInt64) (n : UInt64) : UInt64 := (x >>> n) ||| (x <<< (64 - n))

/-- Mix two message words into four words of the state. -/
def quarter (v : Words) (a b c d : Fin 16) (x y : UInt64) : Words :=
  let v := v.set a (v[a] + v[b] + x)
  let v := v.set d (rotateRight (v[d] ^^^ v[a]) 32)
  let v := v.set c (v[c] + v[d])
  let v := v.set b (rotateRight (v[b] ^^^ v[c]) 24)
  let v := v.set a (v[a] + v[b] + y)
  let v := v.set d (rotateRight (v[d] ^^^ v[a]) 16)
  let v := v.set c (v[c] + v[d])
  v.set b (rotateRight (v[b] ^^^ v[c]) 63)

def round (m v : Words) (s : Vector (Fin 16) 16) : Words :=
  let v := quarter v 0 4 8 12 m[s[0]] m[s[1]]
  let v := quarter v 1 5 9 13 m[s[2]] m[s[3]]
  let v := quarter v 2 6 10 14 m[s[4]] m[s[5]]
  let v := quarter v 3 7 11 15 m[s[6]] m[s[7]]
  let v := quarter v 0 5 10 15 m[s[8]] m[s[9]]
  let v := quarter v 1 6 11 12 m[s[10]] m[s[11]]
  let v := quarter v 2 7 8 13 m[s[12]] m[s[13]]
  quarter v 3 4 9 14 m[s[14]] m[s[15]]

/-- Take one block into the chain; `counted` is the number of bytes so far. -/
def compress (h : Vector UInt64 8) (m : Words) (counted : Nat) (last : Bool) : Vector UInt64 8 :=
  let v : Words := h ++ initial
  let v := v.set 12 (v[12] ^^^ counted.toUInt64)
  let v := v.set 13 (v[13] ^^^ (counted / Word.count64).toUInt64)
  let v := if last then v.set 14 (~~~ v[14]) else v
  let w := schedule.foldl (round m) v
  Vector.ofFn fun i : Fin 8 => h[i] ^^^ w[i.val] ^^^ w[i.val + 8]

/-- A word from bytes, the lowest first. -/
def littleEndian (bytes : List UInt8) : UInt64 :=
  bytes.foldr (fun b word => (word <<< 8) ||| b.toUInt64) 0

/-- The bytes of a word, the lowest first. -/
def wordBytes (word : UInt64) : List UInt8 :=
  (List.range 8).map fun i => (word >>> (8 * i.toUInt64)).toUInt8

/-- A block of at most 128 bytes as words, filled up with zeros. -/
def blockWords (bytes : List UInt8) : Words :=
  Vector.ofFn fun i : Fin 16 => littleEndian ((bytes.drop (8 * i.val)).take 8)

/-- Take in all blocks; the last one may be short and is marked as last. -/
def absorb (h : Vector UInt64 8) (counted : Nat) : List (List UInt8) → Vector UInt64 8
  | [] => h
  | [block] => compress h (blockWords block) (counted + block.length) true
  | block :: rest => absorb (compress h (blockWords block) (counted + 128) false) (counted + 128) rest

/-- Cut into blocks of 128 bytes; at most `fuel` of them. -/
def blocks : Nat → List UInt8 → List (List UInt8)
  | 0, _ => []
  | fuel + 1, bytes =>
    if bytes.isEmpty then [] else bytes.take 128 :: blocks fuel (bytes.drop 128)

/-- The chaining words before any block: eight bytes of digest, eight of key, one leaf. -/
def start (person : List UInt8) : Vector UInt64 8 :=
  let h := initial.set 0 (initial[0] ^^^ 0x01010808)
  let h := h.set 6 (h[6] ^^^ littleEndian (person.take 8))
  h.set 7 (h[7] ^^^ littleEndian ((person.drop 8).take 8))

/-- The digest of `message` under `key` as a word. -/
def digest (person : List UInt8) (key : UInt64) (message : List UInt8) : UInt64 :=
  let keyBlock := wordBytes key ++ List.replicate 120 0
  let parts := blocks (message.length / 128 + 1) message
  (absorb (start person) 0 (keyBlock :: parts))[0]

end Dungeon.Random.KeyedHash
