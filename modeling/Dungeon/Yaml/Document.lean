import Dungeon.Yaml.Node
import Dungeon.Yaml.Scalar

/-!
# Documents

The value of a text is the value of its node. Mappings are merged first, so that the values are read
off nodes without keys for merging. Of several faults the one closest to the root counts, and of two
equally close ones the first.
-/

namespace Dungeon.Yaml

/-! ## Merging -/

namespace Node

def tag : Node → Tag
  | .scalar tag _ | .sequence tag _ | .mapping tag _ => tag

/-- Is this the key of mappings that are to be merged? -/
def merges (n : Node) : Bool := n.tag == .merge

/-- The pairs of a mapping whose merging has come to an end. -/
def pairs? : Node → Option (List (Node × Node))
  | .mapping _ pairs => if pairs.any (·.1.merges) then none else some pairs
  | _ => none

/-- The pairs that stand behind a key for merging: those of a mapping, or of mappings, the last one
first. -/
def merged? : Node → Option (List (Node × Node))
  | .sequence _ items => (items.mapM pairs?).map fun ps => ps.reverse.flatten
  | n => n.pairs?

/-- Put merged pairs in front. A mapping that cannot be merged keeps its key alone, which has no
value. -/
def joinPairs (pairs : List (Node × Node)) : List (Node × Node) :=
  match (pairs.filter (·.1.merges)).mapM (·.2.merged?) with
  | some more => more.flatten ++ pairs.filter (!·.1.merges)
  | none => pairs.filter (·.1.merges)

mutual

/-- Merge all mappings from the inside out. -/
def joined : Node → Node
  | .scalar tag text => .scalar tag text
  | .sequence tag items => .sequence tag (joinedItems items)
  | .mapping tag pairs => .mapping tag (joinPairs (joinedPairs pairs))

def joinedItems : List Node → List Node
  | [] => []
  | n :: rest => joined n :: joinedItems rest

def joinedPairs : List (Node × Node) → List (Node × Node)
  | [] => []
  | (k, v) :: rest => (joined k, joined v) :: joinedPairs rest

end

mutual

/-- The text of a scalar; a mapping has the one under its default key. -/
def text? : Node → Option String
  | .scalar _ text => some text
  | .sequence _ _ => none
  | .mapping _ pairs => defaultText? pairs

def defaultText? : List (Node × Node) → Option String
  | [] => none
  | (k, v) :: rest => if k.tag == .default then text? v else defaultText? rest

end

end Node

/-! ## Values -/

/-- A fault with the number of nodes around the one that it is in. -/
abbrev Leveled (β : Type) := Except (Nat × Fault) β

/-- A result made of two, or the fault that counts. -/
def Leveled.both (f : β → γ → δ) : Leveled β → Leveled γ → Leveled δ
  | .ok x, .ok y => .ok (f x y)
  | .error e, .ok _ => .error e
  | .ok _, .error e => .error e
  | .error e, .error e' => .error (if e'.1 < e.1 then e' else e)

variable {α : Type} [Scalar α]

/-- The value that a text has instead of a node. -/
def scalarAt (level : Nat) (tag : Tag) : Option String → Leveled (Value α)
  | some text => (tag.scalar text).mapError (level, ·)
  | none => .error (level, values)

/-- The text of a default key, which stands for itself. -/
def Node.defaultKey? : Node → Option String
  | .scalar .default text => some text
  | _ => none

/-- Is the value of this tag made in two steps, its parts in the second one? -/
def Tag.collects : Tag → Bool
  | .seq | .map | .pairs => true
  | _ => false

mutual

/-- The value of a node inside `level` other ones. -/
def valueOf (level : Nat) : Node → Leveled (Value α)
  | .scalar tag text =>
    if tag.collects then .error (level + 1, values) else scalarAt level tag (some text)
  | .sequence tag items =>
    match tag with
    | .seq => (valuesOf (level + 1) items).map .list
    | .pairs => (rowsOf (level + 1) items).map .list
    | .map => .error (level + 1, values)
    | _ => .error (level, values)
  | .mapping tag pairs =>
    match tag with
    | .map => (fieldsOf (level + 1) pairs).map fun ps => .object (Fields.ofPairs ps)
    | .seq => .error (level + 1, values)
    | .pairs => .error (level + 1, values)
    | tag => scalarAt level tag (Node.mapping tag pairs).text?

def valuesOf (level : Nat) : List Node → Leveled (List (Value α))
  | [] => .ok []
  | n :: rest => .both List.cons (valueOf level n) (valuesOf level rest)

/-- The fields of a mapping. Lists and mappings are no keys, whatever is in them. -/
def fieldsOf (level : Nat) : List (Node × Node) → Leveled (List (Value α × Value α))
  | [] => .ok []
  | (k, n) :: rest =>
    let key :=
      if k.tag.collects then .error (level, values)
      else match k.defaultKey? with
        | some text => .ok (.text text)
        | none => valueOf level k
    .both List.cons (.both Prod.mk key (valueOf level n)) (fieldsOf level rest)

/-- The rows of a list of pairs. -/
def rowsOf (level : Nat) : List Node → Leveled (List (Value α))
  | [] => .ok []
  | .mapping _ [(k, n)] :: rest =>
    .both List.cons
      (.both (fun v w => .tuple [v, w]) (valueOf level k) (valueOf level n)) (rowsOf level rest)
  | _ :: _ => .error (level, values)

end

def isAllowed (c : Char) : Bool :=
  let n := c.toNat
  n == 9 || n == 10 || n == 13 || (0x20 ≤ n && n ≤ 0x7E) || n == 0x85 || (0xA0 ≤ n && n ≤ 0xD7FF)
    || (0xE000 ≤ n && n ≤ 0xFFFD) || 0x10000 ≤ n

/-- The value of a whole text, null for a text without a document. -/
def read (text : String) : Except Fault (Value α) := do
  unless text.toList.all isAllowed do throw (.unreadableYaml .characters)
  match ← readNode text with
  | none => return .null
  | some n => (valueOf 0 n.joined).mapError Prod.snd

end Dungeon.Yaml
