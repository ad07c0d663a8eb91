import Dungeon.Fault

/-!
# Conversions

What a value counts as where a number, a sequence, an object or a container is wanted, and the
faults of values that cannot count as one.
-/

namespace Dungeon.Value

variable {α : Type} [Scalar α]

/-- A text that is no whole number is quoted in its message up to this length. -/
def quotedLength : Nat := 200

def unreadable (s : String) : Decimal.NoInteger → Fault
  | .malformed => .unreadableWhole ((Text.quote s).take quotedLength).toString
  | .tooLong digits => .tooManyDigits digits

/-- The whole number that a value stands for. Real numbers lose their fraction and texts are read. -/
def toWhole : Value α → Except Fault Int
  | .bool b => .ok (if b then 1 else 0)
  | .num (.whole n) => .ok n
  | .num (.real x) => (Scalar.truncate x).mapError NoWhole.fault
  | .text s => (Decimal.readInt s).mapError (unreadable s)
  | v => .error (.wholeFrom v.typeName)

/-- The number in the arithmetic that a value stands for; texts are read. -/
def toReal : Value α → Except Fault α
  | .bool b => .ok (if b then 1.0 else 0.0)
  | .num n => n.toScalar
  | .text s =>
    match Scalar.ofText? s with
    | some x => .ok x
    | none => .error (.unreadableReal (Text.quote s))
  | v => .error (.realFrom v.typeName)

omit [Scalar α] in
/-- A count: a whole number or a truth value. -/
def toCount : Value α → Except Fault Int
  | .bool b => .ok (if b then 1 else 0)
  | .num (.whole n) => .ok n
  | v => .error (.notInteger v.typeName)

omit [Scalar α] in
/-- The parts of a value: items of a list, characters of a text, keys of an object. -/
def parts? : Value α → Option (List (Value α))
  | .list vs => some vs
  | .tuple vs => some vs
  | .text s => some (s.toList.map fun c => .text (String.singleton c))
  | .object ps => some (ps.map Prod.fst)
  | _ => none

omit [Scalar α] in
def parts (v : Value α) : Except Fault (List (Value α)) :=
  match v.parts? with
  | some vs => .ok vs
  | none => .error (.notIterable v.typeName)

omit [Scalar α] in
/-- How many parts a value has. -/
def length (v : Value α) : Except Fault Nat :=
  match v.parts? with
  | some vs => .ok vs.length
  | none => .error (.noLength v.typeName)

omit [Scalar α] in
/-- A value as the key of an object. -/
def key (v : Value α) : Except Fault (Value α) :=
  match v.unfitKey? with
  | some kind => .error (.notHashable kind)
  | none => .ok v

omit [Scalar α] in
/-- The fields that a sequence of pairs makes, from position `i` on. -/
def pairsFrom : Nat → List (Value α) → Except Fault (List (Value α × Value α))
  | _, [] => .ok []
  | i, v :: rest =>
    match v.parts? with
    | none => .error (.notSequence i)
    | some [k, w] => do
      let k ← k.key
      let rest ← pairsFrom (i + 1) rest
      return (k, w) :: rest
    | some vs => .error (.notPair i vs.length)

/-- The fields of an object, or of a sequence of pairs. -/
def fields : Value α → Except Fault (Fields α)
  | .object ps => .ok ps
  | v => do
    let vs ← v.parts
    return .ofPairs (← pairsFrom 0 vs)

/-- The fields of a value, none for a value that does not hold. -/
def fieldsOrNone (v : Value α) : Except Fault (Fields α) :=
  if v.truthy then v.fields else .ok []

omit [Scalar α] in
/-- The fields of an object; other values have no member `member`. -/
def members (member : String) : Value α → Except Fault (Fields α)
  | .object ps => .ok ps
  | v => .error (.noMember v.typeName member)

/-- The fields of an object, none for a value that does not hold. -/
def membersOrNone (member : String) (v : Value α) : Except Fault (Fields α) :=
  if v.truthy then v.members member else .ok []

/-- The parts of a value, none for a value that does not hold. -/
def partsOrNone (v : Value α) : Except Fault (List (Value α)) :=
  if v.truthy then v.parts else .ok []

/-- Does `text` begin with `part`, and if not, does it further on? -/
def occursIn (part : List Char) : List Char → Bool
  | [] => part.isEmpty
  | c :: rest => part.isPrefixOf (c :: rest) || occursIn part rest

/-- Is `element` in `container`: an item of a list, a part of a text, a key of an object? -/
def holds (container element : Value α) : Except Fault Bool :=
  match container with
  | .list vs => .ok (vs.any (eq element))
  | .tuple vs => .ok (vs.any (eq element))
  | .text s =>
    match element with
    | .text t => .ok (occursIn t.toList s.toList)
    | v => .error (.unfitText v.typeName)
  | .object ps => do return (Fields.find? ps (← element.key)).isSome
  | v => .error (.notContainer v.typeName)

omit [Scalar α] in
/-- The field of an object, or the fault of a missing key. -/
def require (ps : Fields α) (key : String) : Except Fault (Value α) :=
  match Fields.named? ps key with
  | some v => .ok v
  | none => .error (.missingKey (Text.quote key))

/-- The relation between two values, or the fault of values without an order. -/
def compare (r : Relation) (a b : Value α) : Except Fault Bool :=
  (related r a b).mapError Unordered.fault

/-- Values that are to be sorted must have an order. -/
def checkOrder : List (Value α) → Except Fault Unit
  | a :: b :: rest => do
    let _ ← Value.compare .lt b a
    checkOrder (b :: rest)
  | _ => .ok ()

/-- The sum of a value and a whole number. -/
def plus (v : Value α) (n : Int) : Except Fault (Value α) :=
  match v.number? with
  | some (.whole m) => .ok (.int (m + n))
  | some (.real x) => do
    let y ← (Number.whole n).toScalar
    return .real (x + y)
  | none => .error (.noOperation "+" v.typeName "int")

/-- The difference of two values that count as numbers. -/
def minus (v w : Value α) : Except Fault (Number α) :=
  match v.number?, w.number? with
  | some m, some n =>
    match m.sub? n with
    | some d => .ok d
    | none => .error .tooLarge
  | _, _ => .error (.noOperation "-" v.typeName w.typeName)

/-- The point `v + (w - v) · t` of the way from one value to another. -/
def between (v w : Value α) (t : α) : Except Fault α := do
  let span ← (← w.minus v).toScalar
  return (← v.toReal) + span * t

end Dungeon.Value
