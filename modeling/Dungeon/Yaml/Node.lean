import Dungeon.Yaml.Tag
import Dungeon.Yaml.Token

/-!
# Nodes

The tokens of a text make a document: a scalar, a sequence or a mapping, each with a tag that says
what it stands for. A node can be given a name and stand again wherever the name does. Tokens are
taken in order, so the first thing that is wrong is what is said.
-/

namespace Dungeon.Yaml

inductive Node
  | scalar (tag : Tag) (text : String)
  | sequence (tag : Tag) (items : List Node)
  | mapping (tag : Tag) (pairs : List (Node × Node))

def references : Fault := .unreadableYaml .references

/-- What is left of the tokens, the nodes that have names, and the short forms of tags. A node that is
not finished has its name already. -/
structure Reading where
  tokens : List Token
  named : List (String × Option Node) := []
  handles : List (String × String) := []

abbrev Compose (β : Type) := EStateM Fault Reading β

namespace Compose

/-- The next token. -/
def peek : Compose Token := do
  match (← get).tokens with
  | .broken f :: _ => throw f
  | t :: _ => return t
  | [] => throw grammar

/-- Go behind the next token. -/
def drop : Compose Unit := modify fun r => { r with tokens := r.tokens.drop 1 }

def finished (node : Node) (name : Option String) : Compose Node := do
  match name with
  | some name => modify fun r => { r with named := (name, some node) :: r.named }
  | none => pure ()
  return node

/-- A node without content. -/
def nothing : Node := .scalar (.ofPlain "") ""

/-- What stands in front of a node. -/
structure Properties where
  name : Option String := none
  tag : Option Tagging := none

def anchor? : Compose (Option String) := do
  match ← peek with
  | .anchor name =>
    drop
    return some name
  | _ => return none

def tag? : Compose (Option Tagging) := do
  match ← peek with
  | .tag t =>
    drop
    return some t
  | _ => return none

def properties : Compose Properties := do
  match ← anchor? with
  | some name => return { name := some name, tag := ← tag? }
  | none =>
    match ← tag? with
    | some t => return { name := ← anchor?, tag := some t }
    | none => return {}

/-- The full form of a tag. -/
def fullTag (t : Tagging) : Compose String := do
  match t.handle with
  | none => return t.suffix
  | some handle =>
    match (← get).handles.lookup handle with
    | some start => return start ++ t.suffix
    | none => throw grammar

/-- Give a node its name, which must be new. -/
def announce (name : Option String) : Compose Unit := do
  match name with
  | none => return
  | some name =>
    if ((← get).named.lookup name).isSome then throw references
    modify fun r => { r with named := (name, none) :: r.named }

/-- The node that a name stands for. -/
def standing (name : String) : Compose Node := do
  match ((← get).named.lookup name).join with
  | some node => return node
  | none => throw references

/-- The tag of a scalar: the one that is given, or the one that its text says. -/
def scalarTag (tag : Option String) (plain : Bool) (text : String) : Tag :=
  match tag with
  | none => if plain then .ofPlain text else .str
  | some "!" => .ofPlain text
  | some tag => .ofText tag

/-- The tag of a sequence or a mapping. -/
def collectionTag (tag : Option String) (usual : Tag) : Tag :=
  match tag with
  | none => usual
  | some "!" => usual
  | some tag => .ofText tag

/-- Where a node stands: in a block, and whether dashes of the same indentation belong to it. -/
inductive Position
  | flow
  | block
  | blockOrDashes
  deriving DecidableEq

def endsEntry : Token → Bool
  | .blockEntry | .blockEnd => true
  | _ => false

def endsDashed : Token → Bool
  | .blockEntry | .key | .value | .blockEnd => true
  | _ => false

def endsBlockKey : Token → Bool
  | .key | .value | .blockEnd => true
  | _ => false

def endsFlowKey (closing : Token → Bool) (t : Token) : Bool :=
  match t with
  | .value | .flowEntry => true
  | t => closing t

def endsFlowValue (closing : Token → Bool) (t : Token) : Bool :=
  match t with
  | .flowEntry => true
  | t => closing t

def closesSequence : Token → Bool
  | .sequenceEnd => true
  | _ => false

def closesMapping : Token → Bool
  | .mappingEnd => true
  | _ => false

mutual

/-- A node. The first argument bounds the depth and the lengths. -/
def node : Nat → Position → Compose Node
  | 0, _ => throw grammar
  | limit + 1, position => do
    match ← peek with
    | .alias name =>
      drop
      standing name
    | _ =>
      let ps ← properties
      let tag ← match ps.tag with
        | some t => some <$> fullTag t
        | none => pure none
      match ← peek, position with
      | .blockEntry, .blockOrDashes =>
        announce ps.name
        finished (.sequence (collectionTag tag .seq) (← dashed limit)) ps.name
      | .scalar text plain, _ =>
        drop
        announce ps.name
        finished (.scalar (scalarTag tag plain text) text) ps.name
      | .sequenceStart, _ =>
        announce ps.name
        drop
        finished (.sequence (collectionTag tag .seq) (← flowItems limit true)) ps.name
      | .mappingStart, _ =>
        announce ps.name
        drop
        finished (.mapping (collectionTag tag .map) (← flowPairs limit true)) ps.name
      | t, position =>
        if position != .flow && t matches .blockSequenceStart then
          announce ps.name
          drop
          finished (.sequence (collectionTag tag .seq) (← blockItems limit)) ps.name
        else if position != .flow && t matches .blockMappingStart then
          announce ps.name
          drop
          finished (.mapping (collectionTag tag .map) (← blockPairs limit)) ps.name
        else if ps.name.isSome || tag.isSome then
          announce ps.name
          let empty := scalarTag tag (tag.all (· == "!")) ""
          finished (.scalar empty "") ps.name
        else throw grammar

/-- A node, or nothing in front of a token that ends it. -/
def nodeUnless : Nat → (Token → Bool) → Position → Compose Node
  | 0, _, _ => throw grammar
  | limit + 1, ends, position => do
    if ends (← peek) then return nothing else node limit position

/-- The items of a block of dashes. -/
def blockItems : Nat → Compose (List Node)
  | 0 => throw grammar
  | limit + 1 => do
    match ← peek with
    | .blockEntry =>
      drop
      let item ← nodeUnless limit endsEntry .block
      return item :: (← blockItems limit)
    | .blockEnd =>
      drop
      return []
    | _ => throw grammar

/-- The items of dashes that are not indented further than the key in front of them. -/
def dashed : Nat → Compose (List Node)
  | 0 => throw grammar
  | limit + 1 => do
    match ← peek with
    | .blockEntry =>
      drop
      let item ← nodeUnless limit endsDashed .block
      return item :: (← dashed limit)
    | _ => return []

/-- The pairs of a block. -/
def blockPairs : Nat → Compose (List (Node × Node))
  | 0 => throw grammar
  | limit + 1 => do
    match ← peek with
    | .key =>
      drop
      let key ← nodeUnless limit endsBlockKey .blockOrDashes
      let value ← blockValue limit
      return (key, value) :: (← blockPairs limit)
    | .blockEnd =>
      drop
      return []
    | _ => throw grammar

def blockValue : Nat → Compose Node
  | 0 => throw grammar
  | limit + 1 => do
    match ← peek with
    | .value =>
      drop
      nodeUnless limit endsBlockKey .blockOrDashes
    | _ => return nothing

/-- The items in brackets; all but the first one come behind a comma. -/
def flowItems : Nat → Bool → Compose (List Node)
  | 0, _ => throw grammar
  | limit + 1, first => do
    if closesSequence (← peek) then
      drop
      return []
    if !first then
      match ← peek with
      | .flowEntry => drop
      | _ => throw grammar
    match ← peek with
    | .key =>
      drop
      let pair ← flowPair limit closesSequence
      let item : Node := .mapping .map [pair]
      return item :: (← flowItems limit false)
    | .sequenceEnd =>
      drop
      return []
    | _ =>
      let item ← node limit .flow
      return item :: (← flowItems limit false)

/-- A pair in brackets behind the mark of its key. -/
def flowPair : Nat → (Token → Bool) → Compose (Node × Node)
  | 0, _ => throw grammar
  | limit + 1, closing => do
    let key ← nodeUnless limit (endsFlowKey closing) .flow
    match ← peek with
    | .value =>
      drop
      return (key, ← nodeUnless limit (endsFlowValue closing) .flow)
    | _ => return (key, nothing)

/-- The pairs in braces; all but the first one come behind a comma. -/
def flowPairs : Nat → Bool → Compose (List (Node × Node))
  | 0, _ => throw grammar
  | limit + 1, first => do
    if closesMapping (← peek) then
      drop
      return []
    if !first then
      match ← peek with
      | .flowEntry => drop
      | _ => throw grammar
    match ← peek with
    | .key =>
      drop
      let pair ← flowPair limit closesMapping
      return pair :: (← flowPairs limit false)
    | .mappingEnd =>
      drop
      return []
    | _ =>
      let key ← node limit .flow
      return (key, nothing) :: (← flowPairs limit false)

end

/-- The short forms of tags in every document. -/
def usualHandles : List (String × String) := [("!", "!"), ("!!", Tag.core)]

/-- The directives in front of a document; a version and a short form are given once at most. -/
def directives : Nat → Bool → List (String × String) → Compose (List (String × String))
  | 0, _, _ => throw grammar
  | limit + 1, versioned, handles => do
    match ← peek with
    | .directive d =>
      drop
      match d with
      | .version major =>
        if versioned || major != 1 then throw grammar
        directives limit true handles
      | .tags handle start =>
        if (handles.lookup handle).isSome then throw grammar
        directives limit versioned ((handle, start) :: handles)
      | .other => directives limit versioned handles
    | _ => return handles

/-- Go behind the marks of ended documents. -/
def dropEnds : Nat → Compose Unit
  | 0 => throw grammar
  | limit + 1 => do
    match ← peek with
    | .documentEnd =>
      drop
      dropEnds limit
    | _ => return

/-- The start of a document with its directives, if the text goes on. -/
def started (limit : Nat) : Compose Bool := do
  dropEnds limit
  match ← peek with
  | .streamEnd => return false
  | _ =>
    let handles ← directives limit false []
    modify fun r => { r with handles := handles ++ usualHandles }
    match ← peek with
    | .documentStart =>
      drop
      return true
    | _ => throw grammar

def endsDocument : Token → Bool
  | .directive _ | .documentStart | .documentEnd | .streamEnd => true
  | _ => false

/-- The first document of a text, if there is one. -/
def firstDocument (limit : Nat) : Compose (Option Node) := do
  match ← peek with
  | .directive _ | .documentStart | .streamEnd =>
    if ← started limit then some <$> nodeUnless limit endsDocument .block else return none
  | _ =>
    modify fun r => { r with handles := usualHandles }
    some <$> node limit .block

/-- The document of a text, which must be the only one. -/
def document (limit : Nat) : Compose (Option Node) := do
  match ← firstDocument limit with
  | none => return none
  | some node =>
    if ← started limit then throw references
    return some node

end Compose

/-- The node of a text, if it holds one. -/
def readNode (text : String) : Except Fault (Option Node) :=
  let tokens := tokens text.toList
  match Compose.document (4 * tokens.length + 16) { tokens } with
  | .ok node _ => .ok node
  | .error f _ => .error f

end Dungeon.Yaml
