import Dungeon.Proofs.Graph.Reading

/-!
# The codes of bad nodes

The report on a bad node has the code of unknown types when the mark of unknown types stands in what
its fault says. This is so of a node with a type that there are no nodes of, and of any other bad node
whose fault repeats a text with the mark in it; no other fault can have the mark.
-/

namespace Dungeon

namespace Value

/-- The text stands somewhere in the value, also inside of a key. -/
inductive Mentions {α : Type} (s : String) : Value α → Prop
  | own : Mentions s (.text s)
  | item {v : Value α} {vs : List (Value α)} : v ∈ vs → Mentions s v → Mentions s (.list vs)
  | fixedItem {v : Value α} {vs : List (Value α)} : v ∈ vs → Mentions s v → Mentions s (.tuple vs)
  | key {k v : Value α} {ps : Fields α} : (k, v) ∈ ps → Mentions s k → Mentions s (.object ps)
  | field {k v : Value α} {ps : Fields α} : (k, v) ∈ ps → Mentions s v → Mentions s (.object ps)

/-- The text stands in a message, as it is or between quotes. -/
def Repeats (s message : String) : Prop :=
  s.toList <:+: message.toList ∨ (Text.quote s).toList <:+: message.toList

/-- The message repeats a text with the mark that stands somewhere in the value. -/
def Imitated (v : Value Float) (message : String) : Prop :=
  ∃ s, v.Mentions s ∧ Marked s ∧ Repeats s message

theorem Repeats.marked {s message : String} (marked : Marked s) (h : Repeats s message) :
    Marked message := by
  obtain raw | quoted := h
  · exact marked.mono raw
  · exact (Text.marked_quote.2 marked).mono quoted

section

variable {α : Type} {ps : Fields α} {key s : String}

theorem Mentions.of_named? {v : Value α} (found : ps.named? key = some v) (h : v.Mentions s) :
    (object ps).Mentions s := by
  have mem := Fields.text_mem_of_named? found
  exact .field mem h

theorem Mentions.of_field (h : (Value.field ps key).Mentions s) : (object ps).Mentions s := by
  unfold Value.field at h
  cases found : Fields.named? ps key with
  | none =>
    rw [found] at h
    cases h
  | some v =>
    rw [found] at h
    exact h.of_named? found

end

variable {v w : Value Float} {message : String}

namespace Imitated

theorem map (h : v.Imitated message) (up : ∀ s, v.Mentions s → w.Mentions s) :
    w.Imitated message := by
  obtain ⟨s, mentions, own, repeats⟩ := h
  exact ⟨s, up s mentions, own, repeats⟩

theorem mono {text : String} (h : v.Imitated message) (inside : message.toList <:+: text.toList) :
    v.Imitated text := by
  obtain ⟨s, mentions, own, repeats⟩ := h
  exact ⟨s, mentions, own, repeats.imp (·.trans inside) (·.trans inside)⟩

theorem append_left (h : v.Imitated message) (before : String) : v.Imitated (before ++ message) := by
  refine h.mono ?_
  rw [String.toList_append]
  exact (List.suffix_append _ _).isInfix

theorem append_right (h : v.Imitated message) (after : String) : v.Imitated (message ++ after) := by
  refine h.mono ?_
  rw [String.toList_append]
  exact (List.prefix_append _ _).isInfix

theorem marked (h : v.Imitated message) : Marked message := by
  obtain ⟨s, -, own, repeats⟩ := h
  exact repeats.marked own

end Imitated

theorem infix_joined {parts : List String} {p : String} (mem : p ∈ parts) :
    p.toList <:+: (joined ", " parts).toList := by
  induction parts with
  | nil => cases mem
  | cons q rest ih =>
    cases rest with
    | nil =>
      rw [List.mem_singleton.1 mem]
      exact List.infix_rfl
    | cons r rest =>
      rw [joined_cons_cons, String.toList_append, String.toList_append]
      obtain rfl | mem := List.mem_cons.1 mem
      · exact (List.prefix_append _ _).isInfix
      · exact (ih mem).trans ((List.suffix_append _ _).isInfix.trans (List.suffix_append _ _).isInfix)

/-- A row between brackets has the mark, and what it repeats, from one of its parts. -/
theorem imitated_row {parts : List String} {before after : String} (first : Unmarked before)
    (last : Unmarked after) (detached : Detached after.toList)
    (marked : Marked (before ++ joined ", " parts ++ after)) :
    ∃ p ∈ parts, Marked p ∧
      ∀ v : Value Float, v.Imitated p → v.Imitated (before ++ joined ", " parts ++ after) := by
  obtain ⟨p, mem, inside⟩ := ((marked_append first).1 (marked.of_append detached last)).of_joined
  refine ⟨p, mem, inside, fun v h => ?_⟩
  exact ((h.mono (infix_joined mem)).append_left before).append_right after

theorem imitated_rowText {parts : List String} (marked : Marked (rowText parts)) :
    ∃ p ∈ parts, Marked p ∧ ∀ v : Value Float, v.Imitated p → v.Imitated (rowText parts) := by
  have first : Unmarked "(" := by decide
  unfold rowText at *
  split at marked
  next p =>
    have inside := (marked_append first).1 (marked.of_append (by decide) (by decide))
    exact ⟨p, List.mem_cons_self, inside, fun v h => (h.append_left _).append_right _⟩
  next => exact imitated_row first (by decide) (by decide) marked

theorem mem_quotedItems {vs : List (Value Float)} {p : String} (mem : p ∈ quotedItems vs) :
    ∃ v ∈ vs, v.quoted = p := by
  induction vs with
  | nil => cases mem
  | cons v rest ih =>
    rw [quotedItems, List.mem_cons] at mem
    obtain rfl | mem := mem
    · exact ⟨v, List.mem_cons_self, rfl⟩
    · obtain ⟨w, there, same⟩ := ih mem
      exact ⟨w, List.mem_cons_of_mem v there, same⟩

theorem mem_quotedFields {ps : Fields Float} {p : String} (mem : p ∈ quotedFields ps) :
    ∃ k v, (k, v) ∈ ps ∧ k.quoted ++ (": " ++ v.quoted) = p := by
  induction ps with
  | nil => cases mem
  | cons first rest ih =>
    obtain ⟨k, v⟩ := first
    rw [quotedFields, List.mem_cons, String.append_assoc] at mem
    obtain rfl | mem := mem
    · exact ⟨k, v, List.mem_cons_self, rfl⟩
    · obtain ⟨k', w, there, same⟩ := ih mem
      exact ⟨k', w, List.mem_cons_of_mem _ there, same⟩

/-- A value is quoted with the mark only where it quotes a text with the mark. -/
theorem imitated_of_quoted : ∀ v : Value Float, Marked v.quoted → v.Imitated v.quoted
  | .null => fun marked => by
    have words : Unmarked "None" := by decide
    exact absurd marked words.not_marked
  | .bool b => fun marked => by
    have words : Unmarked (bool b : Value Float).quoted := by cases b <;> decide
    exact absurd marked words.not_marked
  | .num n => fun marked => absurd marked (unmarked_number n).not_marked
  | .text s => fun marked => ⟨s, .own, Text.marked_quote.1 marked, .inr List.infix_rfl⟩
  | .moment m => fun marked => absurd marked m.unmarked_quoted.not_marked
  | .list vs => fun marked => by
    rw [quoted] at marked ⊢
    obtain ⟨p, mem, inside, further⟩ := imitated_row (by decide) (by decide) (by decide) marked
    obtain ⟨v, there, rfl⟩ := mem_quotedItems mem
    exact further _ ((imitated_of_quoted v inside).map fun s => .item there)
  | .tuple vs => fun marked => by
    rw [quoted] at marked ⊢
    obtain ⟨p, mem, inside, further⟩ := imitated_rowText marked
    obtain ⟨v, there, rfl⟩ := mem_quotedItems mem
    exact further _ ((imitated_of_quoted v inside).map fun s => .fixedItem there)
  | .object ps => fun marked => by
    rw [quoted] at marked ⊢
    obtain ⟨p, mem, inside, further⟩ := imitated_row (by decide) (by decide) (by decide) marked
    obtain ⟨k, v, there, rfl⟩ := mem_quotedFields mem
    have colon : Unmarked ": " := by decide
    obtain inKey | inValue := inside.parted (detached_append rfl (by decide))
    · have shown := (imitated_of_quoted k inKey).map fun s => .key there
      exact further _ (shown.append_right _)
    · have shown := (imitated_of_quoted v ((marked_append colon).1 inValue)).map fun s => .field there
      exact further _ ((shown.append_left ": ").append_left _)
termination_by v => sizeOf v
decreasing_by
  all_goals
    have smaller := List.sizeOf_lt_of_mem there
    simp only [object.sizeOf_spec, list.sizeOf_spec, tuple.sizeOf_spec, Prod.mk.sizeOf_spec] at *
    omega

theorem imitated_of_plain (marked : Marked v.plain) : v.Imitated v.plain := by
  cases v with
  | text s => exact ⟨s, .own, marked, .inl List.infix_rfl⟩
  | moment m => exact absurd marked m.unmarked_plain.not_marked
  | _ => exact imitated_of_quoted _ marked

/-- A message that shows two things has the mark from one of them. -/
theorem imitated_two {text first a between b last : String}
    (same : text = first ++ a ++ (between ++ (b ++ last))) (opening : Unmarked first)
    (middle : Unmarked between) (closing : Unmarked last) {c : Char}
    (sign : between.toList.head? = some c) (foreign : c ∉ mark) (detached : Detached last.toList)
    (showsA : Marked a → v.Imitated a) (showsB : Marked b → v.Imitated b) (marked : Marked text) :
    v.Imitated text := by
  rw [same] at marked ⊢
  obtain inA | inB := marked.parted (detached_append sign foreign)
  · exact ((showsA ((marked_append opening).1 inA)).append_left _).append_right _
  · have inB := ((marked_append middle).1 inB).of_append detached closing
    exact (((showsB inB).append_right _).append_left _).append_left _

theorem imitated_type {ps : Fields Float} {id : String} (named : ps.named? "id" = some (.text id))
    {f : Fault}
    (said : f = .expected ("type of node '" ++ id ++ "'") .string (field ps "type").quoted) :
    Marked f.message → (object ps).Imitated f.message := by
  have same : f.message = "type of node '" ++ id ++
      ("'" ++ " must be " ++ "a string" ++ ", got " ++ ((field ps "type").quoted ++ "")) := by
    subst said
    change "type of node '" ++ id ++ "'" ++ " must be " ++ "a string" ++ ", got " ++
      (field ps "type").quoted = _
    simp only [String.append_assoc, String.append_empty]
  refine imitated_two same (by decide) (by decide) (by decide) rfl (by decide) (by decide) ?_ ?_
  · have shown (marked : Marked id) : (text id).Imitated id := imitated_of_plain marked
    exact fun marked => (shown marked).map fun s => .of_named? named
  · exact fun marked => (imitated_of_quoted _ marked).map fun s => .of_field

theorem imitated_side {ps : Fields Float} {declared : Value Float} {side : PortSide}
    (named : ps.named? "type" = some declared) {f : Fault}
    (said : f = .portSide (field ps "id").plain declared.quoted side.name) :
    Marked f.message → (object ps).Imitated f.message := by
  have same : f.message = "port '" ++ (field ps "id").plain ++
      ("' is declared as " ++ (declared.quoted ++ (" in the " ++ side.name ++ "s list"))) := by
    subst said
    change "port '" ++ (field ps "id").plain ++ "' is declared as " ++ declared.quoted ++
      " in the " ++ side.name ++ "s list" = _
    simp only [String.append_assoc]
  have closing : Unmarked (" in the " ++ side.name ++ "s list") := by cases side <;> decide
  have detached : Detached (" in the " ++ side.name ++ "s list").toList := by cases side <;> decide
  refine imitated_two same (by decide) (by decide) closing rfl (by decide) detached ?_ ?_
  · exact fun marked => (imitated_of_plain marked).map fun s => .of_field
  · exact fun marked => (imitated_of_quoted _ marked).map fun s => .of_named? named

/-- What is said of a value has the mark only from a text in the value. -/
theorem Complaint.imitated {f : Fault} (h : v.Complaint f) (marked : Marked f.message) :
    v.Imitated f.message := by
  induction h with
  | words _ unmarked => exact absurd marked unmarked
  | quoting _ plain same =>
    rw [same] at marked ⊢
    exact (imitated_of_quoted _ ((marked_append plain).1 marked)).append_left _
  | type named => exact imitated_type named rfl marked
  | side named => exact imitated_side named rfl marked
  | item mem _ ih => exact (ih marked).map fun s => .item mem
  | fixedItem mem _ ih => exact (ih marked).map fun s => .fixedItem mem
  | key mem _ ih => exact (ih marked).map fun s => .key mem
  | field mem _ ih => exact (ih marked).map fun s => .field mem

end Value

namespace Graph

open Value

section

variable {α β : Type} {read : Nat → Value α → Except Fault β}
  {report : Nat → Value α → Fault → Except Fault Violation} {words : Nat → Value α → Fault → Violation}
  {i : Nat} {vs : List (Value α)}
  (told : ∀ i v f violation, report i v f = .ok violation → words i v f = violation)
include told

theorem violations_of_readAll {r : Reading β} (done : readAll read report i vs = .ok r) :
    r.violations = (misfits read i vs).map fun m => words m.place m.entry m.fault := by
  rw [readAll_eq told] at done
  split at done <;> cases done
  rfl

theorem readAll_failed {f : Fault} (failed : readAll read report i vs = .error f) :
    ∃ m ∈ misfits read i vs, m.stop? report = some f := by
  rw [readAll_eq told] at failed
  split at failed
  next g found =>
    cases failed
    exact List.exists_of_findSome?_eq_some found
  next => cases failed

end

/-- A graph that is refused is refused with the reports on its bad nodes and edges. -/
theorem reports_of_read {α : Type} [Scalar α] (v : Value α) : FailsOnly
    (fun f => ∀ violations, f = .invalidGraph violations → ∃ ps nodes edges, v = .object ps ∧
      (field ps "nodes").partsOrNone = .ok nodes ∧ (field ps "edges").partsOrNone = .ok edges ∧
      violations = reports nodes edges) (read v) := by
  have ordinary {β : Type} {P : List Violation → Prop} {x : Except Fault β} (h : Reported x) :
      FailsOnly (fun f => ∀ violations, f = .invalidGraph violations → P violations) x := by
    refine h.mono fun f collected violations same => ?_
    cases same
    cases collected
  have get : Unmarked "get" := by decide
  have row (w : Value α) : Reported w.partsOrNone := .ite (complains_parts w).reported (.ok [])
  have group (w : Value α) : Reported (readGroup w) :=
    (complains_members w get).reported.bind fun ps _ => (complains_toText _).reported.bind fun _ _ =>
      (complains_toText _).reported.bind fun _ _ => (row _).bind fun _ _ => .ok _
  refine (ordinary (complains_members v get).reported).bind fun ps opened => ?_
  obtain rfl : v = .object ps := by
    cases v <;> cases opened
    rfl
  refine (ordinary (row _)).bind fun nodes nodesGiven => ?_
  refine FailsOnly.bind (fun f failed violations same => ?_) fun ns nodesRead => ?_
  · obtain ⟨m, bad, stops⟩ := readAll_failed told_badNode failed
    obtain ⟨rfl, escapes⟩ | ⟨rfl, -⟩ := stop_cases stops
    · obtain reported | ⟨n, -, excess⟩ := misread_node m.entry m.fault (bad_node bad).2
      · rw [reported] at escapes
        cases escapes
      · rw [same] at excess
        cases excess
    · cases same
  refine (ordinary (row _)).bind fun edges edgesGiven => ?_
  refine FailsOnly.bind (fun f failed violations same => ?_) fun es edgesRead => ?_
  · obtain ⟨m, bad, stops⟩ := readAll_failed told_badEdge failed
    rw [no_stop (collected_of_badEdges bad)] at stops
    cases stops
  refine (ordinary (row _)).bind fun vs _ => ?_
  refine (ordinary (.mapM fun w _ => group w)).bind fun groups _ => .ite (.ok _) (.error ?_)
  rintro violations ⟨⟩
  refine ⟨ps, nodes, edges, rfl, nodesGiven, edgesGiven, ?_⟩
  rw [violations_of_readAll told_badNode nodesRead, violations_of_readAll told_badEdge edgesRead]
  rfl

/-- The report has the code of unknown types where the fault has the mark. -/
theorem code_badNode (i : Nat) (v : Value Float) (f : Fault) :
    (badNode i v f).code = .unsupportedNodeType ∧ Marked f.message ∨
      (badNode i v f).code = .badNode ∧ ¬Marked f.message := by
  unfold badNode Marked
  rw [← occursIn_iff]
  dsimp only
  split
  next marked => exact .inl ⟨rfl, marked⟩
  next unmarked => exact .inr ⟨rfl, unmarked⟩

theorem marked_of_node {v : Value Float} {f : Fault} (failed : Node.read v = .error f) :
    Marked f.message ↔ v.Untyped ∨ v.Imitated f.message := by
  constructor
  · intro marked
    obtain ⟨untyped, -⟩ | complaint | ⟨n, -, excess⟩ := refused_node v f failed
    · exact .inl untyped
    · exact .inr (complaint.imitated marked)
    · have words : Unmarked f.message := by cases excess <;> decide
      exact absurd marked words.not_marked
  · rintro (untyped | imitated)
    · obtain ⟨got, refused⟩ := untyped.read_eq
      cases failed.symm.trans refused
      change Marked ("Unknown node type: " ++ got)
      have first : mark <+: "Unknown node type: ".toList := by decide
      unfold Marked
      rw [String.toList_append]
      exact (first.trans (List.prefix_append _ _)).isInfix
    · exact imitated.marked

/-- Where reading a graph reports, it reports on each bad node first. The report on a node has the code
of unknown types when the node has a type that there are no nodes of, or the fault repeats a text with
the mark from somewhere in the node; any other bad node has the code of bad nodes. -/
theorem read_codes {v : Value Float} {violations : List Violation}
    (refused : read v = .error (.invalidGraph violations)) :
    ∃ ps nodes edges, v = .object ps ∧ (field ps "nodes").partsOrNone = .ok nodes ∧
      (field ps "edges").partsOrNone = .ok edges ∧ violations = reports nodes edges ∧
      ∀ i w f, nodes[i]? = some w → Node.read w = .error f →
        badNode i w f ∈ violations ∧
        ((w.Untyped ∨ w.Imitated f.message) ∧ (badNode i w f).code = .unsupportedNodeType ∨
          ¬(w.Untyped ∨ w.Imitated f.message) ∧ (badNode i w f).code = .badNode) := by
  obtain ⟨ps, nodes, edges, opened, nodesGiven, edgesGiven, rfl⟩ :=
    reports_of_read v _ refused violations rfl
  refine ⟨ps, nodes, edges, opened, nodesGiven, edgesGiven, rfl, fun i w f there failed => ?_⟩
  have mem : ⟨i, w, f⟩ ∈ badNodes nodes :=
    mem_misfits.2 ⟨List.mk_mem_zipIdx_iff_getElem?.2 there, failed⟩
  refine ⟨List.mem_append_left _ (List.mem_map.2 ⟨_, mem, rfl⟩), ?_⟩
  rw [← marked_of_node failed]
  obtain ⟨coded, marked⟩ | ⟨coded, unmarked⟩ := code_badNode i w f
  · exact .inl ⟨marked, coded⟩
  · exact .inr ⟨unmarked, coded⟩

namespace Imitation

/-- A door that is a proper start but for the place it spawns at, which has the name of another fault. -/
def door : Value Float :=
  .record [("id", .text "door"), ("type", .text "start"),
    ("data", .record [("spawnArea", .text "Unknown node type")])]

def graph : Value Float := .record [("nodes", .list [door]), ("edges", .list [])]

def report : Violation where
  code := .unsupportedNodeType
  message := "Node 'door': spawnArea must be one of: center, entrance, random; " ++
    "got 'Unknown node type'"
  nodeId := some "door"

end Imitation

theorem untyped_door : ¬Imitation.door.Untyped := by
  rintro ⟨ps, id, type, opened, -, typed, unknown⟩
  cases opened
  cases typed
  cases unknown

theorem read_codes_door :
    read Imitation.graph = .error (.invalidGraph [Imitation.report]) ∧
      ∀ f, Node.read Imitation.door = .error f →
        badNode 0 Imitation.door f ∈ [Imitation.report] ∧ Imitation.door.Imitated f.message := by
  have refused : read Imitation.graph = .error (.invalidGraph [Imitation.report]) := by rfl
  refine ⟨refused, fun f failed => ?_⟩
  obtain ⟨ps, nodes, edges, opened, nodesGiven, -, -, codes⟩ := read_codes refused
  cases opened
  cases nodesGiven
  obtain ⟨mem, ⟨untyped | imitated, -⟩ | ⟨-, coded⟩⟩ := codes 0 Imitation.door f rfl failed
  · exact absurd untyped untyped_door
  · exact ⟨mem, imitated⟩
  · rw [List.mem_singleton.1 mem] at coded
    cases coded

/-- The door has a proper type, and its report has the code of unknown types all the same. -/
theorem code_door :
    read Imitation.graph = .error (.invalidGraph [Imitation.report]) ∧
      ¬Imitation.door.Untyped ∧ Imitation.report.code = .unsupportedNodeType :=
  ⟨rfl, untyped_door, rfl⟩

end Graph

end Dungeon
