import Dungeon.Moment
import Dungeon.Number
import Dungeon.Text.Quoted

/-!
# Values

The data of project files, parameters and metadata: null, truth values, numbers, texts, moments,
lists, tuples, and objects whose keys keep their order. Truth values count as the numbers 0 and 1
when values are compared. Any value that does not hold a list or an object can be a key; mostly keys
are texts, and `named?` looks for those. Whole numbers have any size, but very long ones cannot be
written: `quoted` and `plain` say how a value is written, and `writable` whether it can be.
-/

namespace Dungeon

inductive Value (α : Type)
  | null
  | bool (b : Bool)
  | num (n : Number α)
  | text (s : String)
  | moment (m : Moment)
  | list (items : List (Value α))
  /-- A list that does not change any more; it never equals one that may. -/
  | tuple (items : List (Value α))
  | object (fields : List (Value α × Value α))

/-- The fields of an object: keys with their values, in the order in which keys first came. -/
abbrev Fields (α : Type) := List (Value α × Value α)

namespace Value

variable {α : Type}

def int (n : Int) : Value α := .num (.whole n)

def real (x : α) : Value α := .num (.real x)

def texts (xs : List String) : Value α := .list (xs.map .text)

/-- An object whose keys are texts. -/
def record (fields : List (String × Value α)) : Value α :=
  .object (fields.map fun p => (.text p.1, p.2))

def ofOption (f : β → Value α) : Option β → Value α
  | none => .null
  | some x => f x

/-- The name of the kind of a value in messages. -/
def typeName : Value α → String
  | .null => "NoneType"
  | .bool _ => "bool"
  | .num (.whole _) => "int"
  | .num (.real _) => "float"
  | .text _ => "str"
  | .moment m => m.typeName
  | .list _ => "list"
  | .tuple _ => "tuple"
  | .object _ => "dict"

/-- The number a value counts as in comparisons. -/
def number? : Value α → Option (Number α)
  | .bool b => some (.whole (if b then 1 else 0))
  | .num n => some n
  | _ => none

/-- The number a value is; truth values are not numbers here. -/
def strictNumber? : Value α → Option (Number α)
  | .num n => some n
  | _ => none

def text? : Value α → Option String
  | .text s => some s
  | _ => none

def isNull : Value α → Bool
  | .null => true
  | _ => false

mutual

/-- The kind of the list or object that keeps a value from being a key. -/
def unfitKey? : Value α → Option String
  | .list _ => some "list"
  | .object _ => some "dict"
  | .tuple items => unfitItem? items
  | _ => none

def unfitItem? : List (Value α) → Option String
  | [] => none
  | v :: rest => (unfitKey? v).or (unfitItem? rest)

end

mutual

/-- Can the value be written as text at all? Every whole number in it must be short enough. -/
def writable : Value α → Bool
  | .num (.whole n) => Decimal.fits Decimal.maxDigits n.natAbs
  | .list items => writableItems items
  | .tuple items => writableItems items
  | .object fields => writableFields fields
  | _ => true

def writableItems : List (Value α) → Bool
  | [] => true
  | v :: rest => writable v && writableItems rest

def writableFields : List (Value α × Value α) → Bool
  | [] => true
  | (k, v) :: rest => writable k && writable v && writableFields rest

end

variable [Scalar α]

/-- Null, false, zero and everything empty do not hold. -/
def truthy : Value α → Bool
  | .null => false
  | .bool b => b
  | .num (.whole n) => n != 0
  | .num (.real x) => !Scalar.eq x 0.0
  | .text s => !s.isEmpty
  | .moment _ => true
  | .list items => !items.isEmpty
  | .tuple items => !items.isEmpty
  | .object fields => !fields.isEmpty

/-- Characters joined by `separator`. -/
def joined (separator : String) (parts : List String) : String := separator.intercalate parts

/-- Quoted items between parentheses; a comma tells a single one from a value in parentheses. -/
def rowText : List String → String
  | [s] => "(" ++ s ++ ",)"
  | parts => "(" ++ joined ", " parts ++ ")"

mutual

/-- A value as quoted in messages. -/
def quoted : Value α → String
  | .null => "None"
  | .bool true => "True"
  | .bool false => "False"
  | .num n => n.text
  | .text s => Text.quote s
  | .moment m => m.quoted
  | .list items => "[" ++ joined ", " (quotedItems items) ++ "]"
  | .tuple items => rowText (quotedItems items)
  | .object fields => "\x7b" ++ joined ", " (quotedFields fields) ++ "\x7d"

def quotedItems : List (Value α) → List String
  | [] => []
  | v :: rest => quoted v :: quotedItems rest

def quotedFields : List (Value α × Value α) → List String
  | [] => []
  | (k, v) :: rest => (quoted k ++ ": " ++ quoted v) :: quotedFields rest

end

/-- A value as text: texts and moments stand for themselves. -/
def plain : Value α → String
  | .text s => s
  | .moment m => m.plain
  | v => v.quoted

mutual

/-- Equality by value: numbers by size, lists item by item, objects key by key in any order. -/
def eq : Value α → Value α → Bool
  | .null, .null => true
  | .text s, .text t => s == t
  | .moment m, .moment n => m == n
  | .list xs, .list ys => eqItems xs ys
  | .tuple xs, .tuple ys => eqItems xs ys
  | .object xs, .object ys => xs.length == ys.length && eqFields xs ys
  | .bool a, .bool b => a == b
  | .bool a, .num n => Number.eq (.whole (if a then 1 else 0)) n
  | .num n, .bool b => Number.eq n (.whole (if b then 1 else 0))
  | .num m, .num n => Number.eq m n
  | _, _ => false

def eqItems : List (Value α) → List (Value α) → Bool
  | [], [] => true
  | x :: xs, y :: ys => eq x y && eqItems xs ys
  | _, _ => false

/-- Every field of the first object has an equal one in the second. -/
def eqFields : List (Value α × Value α) → List (Value α × Value α) → Bool
  | [], _ => true
  | (k, v) :: rest, fields =>
    fields.any (fun p => eq k p.1 && eq v p.2) && eqFields rest fields

end

/-- The four order relations. -/
inductive Relation
  | lt
  | le
  | gt
  | ge
  deriving DecidableEq

namespace Relation

def symbol : Relation → String
  | lt => "<"
  | le => "<="
  | gt => ">"
  | ge => ">="

def numbers (r : Relation) (a b : Number α) : Bool :=
  match r with
  | lt => a.lt b
  | le => a.le b
  | gt => b.lt a
  | ge => b.le a

def strings (r : Relation) (a b : String) : Bool :=
  match r with
  | lt => a < b
  | le => a ≤ b
  | gt => b < a
  | ge => b ≤ a

def lengths (r : Relation) (a b : Nat) : Bool :=
  match r with
  | lt => a < b
  | le => a ≤ b
  | gt => b < a
  | ge => b ≤ a

end Relation

/-- Two kinds of values that have no order. -/
structure Unordered where
  relation : Relation
  left : String
  right : String

mutual

/-- Does the relation hold? Numbers compare by size, texts by code points, days of the calendar by
date, lists at the first item that differs; nothing else has an order. -/
def related (r : Relation) : Value α → Value α → Except Unordered Bool
  | .text s, .text t => .ok (r.strings s t)
  | .moment ⟨d, none⟩, .moment ⟨e, none⟩ => .ok (r.strings d.text e.text)
  | .list xs, .list ys => relatedItems r xs ys
  | .tuple xs, .tuple ys => relatedItems r xs ys
  | v, w =>
    match v.number?, w.number? with
    | some m, some n => .ok (r.numbers m n)
    | _, _ => .error ⟨r, v.typeName, w.typeName⟩

def relatedItems (r : Relation) : List (Value α) → List (Value α) → Except Unordered Bool
  | x :: xs, y :: ys => if eq x y then relatedItems r xs ys else related r x y
  | xs, ys => .ok (r.lengths xs.length ys.length)

end

end Value

namespace Fields

open Value

variable {α : Type}

/-- The value under a key that is a text. -/
def named? : Fields α → String → Option (Value α)
  | [], _ => none
  | (.text s, v) :: rest, name => if s = name then some v else named? rest name
  | _ :: rest, name => named? rest name

theorem named?_cons (p : Value α × Value α) (rest : Fields α) (s : String) :
    Fields.named? (p :: rest) s = if p.1.text? = some s then some p.2 else Fields.named? rest s := by
  obtain ⟨k, v⟩ := p
  cases k <;> simp [named?, text?]

theorem text_mem_of_named? {fields : Fields α} {s : String} {v : Value α}
    (found : fields.named? s = some v) : (.text s, v) ∈ fields := by
  induction fields with
  | nil => cases found
  | cons p rest ih =>
    obtain ⟨k, w⟩ := p
    rw [named?_cons] at found
    split at found
    next own =>
      cases k <;> cases own
      cases found
      exact List.mem_cons_self
    next => exact List.mem_cons_of_mem _ (ih found)

/-- Fields under texts. -/
def ofTexts (fields : List (String × Value α)) : Fields α :=
  fields.map fun p => (.text p.1, p.2)

variable [Scalar α]

/-- The value under a key. -/
def find? (fields : Fields α) (key : Value α) : Option (Value α) :=
  (List.find? (fun p => eq key p.1) fields).map Prod.snd

/-- Replace the value of an equal key, which stays as it is, or add a field at the end. -/
def insert : Fields α → Value α → Value α → Fields α
  | [], k, v => [(k, v)]
  | (k', v') :: rest, k, v =>
    if eq k k' then (k', v) :: rest else (k', v') :: insert rest k v

/-- Enter further fields in turn; a later value of an equal key wins. -/
def extend (fields more : Fields α) : Fields α :=
  more.foldl (fun fields p => fields.insert p.1 p.2) fields

/-- The fields of pairs in which keys may come again. -/
def ofPairs (pairs : List (Value α × Value α)) : Fields α := extend [] pairs

/-- Inserting decides the value of its own name alone. -/
theorem named?_insert (fields : Fields α) (name name' : String) (v : Value α) :
    (fields.insert (.text name) v).named? name' =
      if name = name' then some v else fields.named? name' := by
  induction fields with
  | nil => simp [insert, named?]
  | cons p rest ih =>
    obtain ⟨k, w⟩ := p
    cases k with
    | text s =>
      by_cases h : name = s
      · subst h; by_cases h' : name = name' <;> simp [insert, named?, eq, h']
      · by_cases h' : s = name'
        · have hn : ¬ name = name' := fun e => h (e.trans h'.symm)
          simp [insert, named?, eq, h', hn]
        · simp [insert, named?, eq, h, h', ih]
    | _ => simp [insert, named?, eq, ih]

end Fields

namespace Value

variable {α : Type}

/-- The field of an object, null when it is missing. -/
def field (fields : Fields α) (key : String) : Value α := (fields.named? key).getD .null

/-- The field of an object, or a default when it is missing. -/
def fieldOr (fields : Fields α) (key : String) (default : Value α) : Value α :=
  (fields.named? key).getD default

end Value

end Dungeon
