/-!
# Tables

A table maps keys to entries and keeps the order in which keys first came.
-/

namespace Dungeon

structure Table (κ β : Type) where
  entries : List (κ × β) := []

namespace Table

variable {κ β γ : Type} [DecidableEq κ]

def empty : Table κ β := ⟨[]⟩

def keys (t : Table κ β) : List κ := t.entries.map Prod.fst

def values (t : Table κ β) : List β := t.entries.map Prod.snd

/-- The entry of a key in a list of pairs. -/
def lookup (k : κ) : List (κ × β) → Option β
  | [] => none
  | (k', v) :: rest => if k' = k then some v else lookup k rest

def find? (t : Table κ β) (k : κ) : Option β := lookup k t.entries

def contains (t : Table κ β) (k : κ) : Bool := (t.find? k).isSome

/-- Replace the entry of a key where it stands, or add it at the end. -/
def put (k : κ) (v : β) : List (κ × β) → List (κ × β)
  | [] => [(k, v)]
  | (k', v') :: rest => if k' = k then (k, v) :: rest else (k', v') :: put k v rest

def insert (t : Table κ β) (k : κ) (v : β) : Table κ β := ⟨put k v t.entries⟩

/-- Change the entry of a key, taking `start` for a key that has none. -/
def adjust (t : Table κ β) (k : κ) (start : β) (f : β → β) : Table κ β :=
  t.insert k (f ((t.find? k).getD start))

/-- Enter all pairs in turn; a later pair of the same key wins. -/
def extend (t : Table κ β) (pairs : List (κ × β)) : Table κ β :=
  pairs.foldl (fun t p => t.insert p.1 p.2) t

def ofList (pairs : List (κ × β)) : Table κ β := empty.extend pairs

def map (f : β → γ) (t : Table κ β) : Table κ γ := ⟨t.entries.map fun p => (p.1, f p.2)⟩

/-- How often each element occurs, in the order of first occurrences. -/
def counts (xs : List κ) : Table κ Nat := xs.foldl (fun t x => t.adjust x 0 (· + 1)) empty

omit [DecidableEq κ] in
@[simp] theorem keys_empty : (empty : Table κ β).keys = [] := rfl

@[simp] theorem find?_empty (k : κ) : (empty : Table κ β).find? k = none := rfl

theorem lookup_put (k k' : κ) (v : β) (pairs : List (κ × β)) :
    lookup k' (put k v pairs) = if k = k' then some v else lookup k' pairs := by
  induction pairs with
  | nil => simp [put, lookup]
  | cons p rest ih =>
    obtain ⟨j, w⟩ := p
    by_cases h : j = k
    · by_cases h' : k = k' <;> simp [put, lookup, h, h']
    · by_cases h' : k = k'
      · subst h'; simp [put, lookup, h, ih]
      · simp [put, lookup, h, ih, h']

/-- Inserting decides the entry of its own key alone. -/
theorem find?_insert (t : Table κ β) (k k' : κ) (v : β) :
    (t.insert k v).find? k' = if k = k' then some v else t.find? k' :=
  lookup_put k k' v t.entries

theorem map_fst_put (k : κ) (v : β) (pairs : List (κ × β)) :
    (put k v pairs).map Prod.fst =
      if k ∈ pairs.map Prod.fst then pairs.map Prod.fst else pairs.map Prod.fst ++ [k] := by
  induction pairs with
  | nil => simp [put]
  | cons p rest ih =>
    obtain ⟨j, w⟩ := p
    by_cases h : j = k
    · simp [put, h]
    · have h' : ¬ k = j := fun e => h e.symm
      simp only [put, h, if_false, List.map_cons, ih, List.mem_cons, h', false_or]
      split <;> simp

/-- A new key goes to the end; an old key keeps its place. -/
theorem keys_insert (t : Table κ β) (k : κ) (v : β) :
    (t.insert k v).keys = if k ∈ t.keys then t.keys else t.keys ++ [k] :=
  map_fst_put k v t.entries

end Table

end Dungeon
