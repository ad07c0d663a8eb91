import Dungeon.Graph.Reader
import Dungeon.Proofs.Failing
import Dungeon.Proofs.Marking

/-!
# What nodes and edges are misread for

A fault of a node or an edge is one that the reading of a graph collects, with one exception: a number
in a node that is too large, as a whole number that the arithmetic has no number for or as an infinite
number that should be a whole one. What is collected says what is wrong in fixed words, and may repeat
the value that is wrong.
-/

namespace Dungeon

variable {α : Type}

/-- The number stands somewhere in the value, behind any number of lists and fields. -/
inductive Value.Contains (n : Number α) : Value α → Prop
  | own : Contains n (.num n)
  | item {v : Value α} {vs : List (Value α)} : v ∈ vs → Contains n v → Contains n (.list vs)
  | field {k v : Value α} {ps : Fields α} : (k, v) ∈ ps → Contains n v → Contains n (.object ps)

variable [Scalar α]

/-- The number is too large, and the fault says so. -/
inductive Number.Excess : Number α → Fault → Prop
  | whole {n : Int} : (Scalar.ofInt? n : Option α) = none → Excess (.whole n) .tooLarge
  | infinite {x : α} : Scalar.truncate x = .error .infinite → Excess (.real x) .infiniteWhole

namespace Value

/-- The fault is that of a number in the value that is too large. -/
def Excess (v : Value α) (f : Fault) : Prop := ∃ n, v.Contains n ∧ n.Excess f

/-- The fault is collected. It has not the mark, or it repeats the value behind words without it, or
it is about something inside of the value; a node whose type is no text is called by its id, and a port
on the wrong side by its id and the side that it names. -/
inductive Complaint : Value α → Fault → Prop
  | words {v : Value α} {f : Fault} :
    Graph.collected f = true → ¬Marked f.message → Complaint v f
  | quoting {v : Value α} {f : Fault} {words : String} :
    Graph.collected f = true → Unmarked words → f.message = words ++ v.quoted → Complaint v f
  | type {ps : Fields α} {id : String} : ps.named? "id" = some (.text id) →
    Complaint (.object ps)
      (.expected ("type of node '" ++ id ++ "'") .string (field ps "type").quoted)
  | side {ps : Fields α} {declared : Value α} {side : PortSide} :
    ps.named? "type" = some declared →
    Complaint (.object ps) (.portSide (field ps "id").plain declared.quoted side.name)
  | item {v : Value α} {vs : List (Value α)} {f : Fault} :
    v ∈ vs → Complaint v f → Complaint (.list vs) f
  | fixedItem {v : Value α} {vs : List (Value α)} {f : Fault} :
    v ∈ vs → Complaint v f → Complaint (.tuple vs) f
  | key {k v : Value α} {ps : Fields α} {f : Fault} :
    (k, v) ∈ ps → Complaint k f → Complaint (.object ps) f
  | field {k v : Value α} {ps : Fields α} {f : Fault} :
    (k, v) ∈ ps → Complaint v f → Complaint (.object ps) f

/-- The fault is collected, or it is that of a number that is too large. -/
def Misread (v : Value α) (f : Fault) : Prop := v.Complaint f ∨ v.Excess f

namespace Complaint

variable {v w : Value α} {f : Fault}

theorem collected (h : v.Complaint f) : Graph.collected f = true := by
  induction h with
  | words collected _ => exact collected
  | quoting collected _ _ => exact collected
  | type _ => rfl
  | side _ => rfl
  | item _ _ ih => exact ih
  | fixedItem _ _ ih => exact ih
  | key _ _ ih => exact ih
  | field _ _ ih => exact ih

/-- What is said of nothing can be said of anything. -/
theorem of_null (h : (null : Value α).Complaint f) : w.Complaint f := by
  cases h with
  | words collected plain => exact .words collected plain
  | quoting collected plain same =>
    refine .words collected ?_
    rw [same]
    exact (unmarked_append.2 ⟨plain, (by decide : Unmarked "None")⟩).not_marked

theorem of_empty (h : (object [] : Value α).Complaint f) : w.Complaint f := by
  cases h with
  | words collected plain => exact .words collected plain
  | quoting collected plain same =>
    refine .words collected ?_
    rw [same]
    exact (unmarked_append.2 ⟨plain, (by decide : Unmarked "\x7b\x7d")⟩).not_marked
  | type named => cases named
  | side named => cases named
  | key mem _ => cases mem
  | field mem _ => cases mem

theorem unmarked (collected : Graph.collected f = true) (plain : Unmarked f.message) :
    v.Complaint f :=
  .words collected plain.not_marked

theorem of_named? {ps : Fields α} {key : String} (found : ps.named? key = some v)
    (h : v.Complaint f) : (Value.object ps).Complaint f := by
  exact .field (Fields.text_mem_of_named? found) h

theorem expected {name : String} {shape : Shape} (plain : Unmarked name) :
    v.Complaint (.expected name shape v.quoted) := by
  have words : Unmarked (name ++ " must be " ++ shape.text ++ ", got ") := by
    cases shape <;> simp +decide [plain, Shape.text]
  exact .quoting rfl words rfl

/-- A value that cannot be written is not repeated. -/
theorem unwritable : w.Complaint .unwritable :=
  .unmarked rfl (by decide +kernel)

theorem quotingOf (h : w.Complaint f) (vs : List (Value α)) : w.Complaint (.quoting vs f) :=
  quoting_of h .unwritable vs

theorem notOneOf {name : String} {allowed : List String} (plain : Unmarked name)
    (listed : ∀ s ∈ allowed, Unmarked s) : v.Complaint (.notOneOf name allowed v.quoted) := by
  have words : Unmarked (name ++ " must be one of: " ++ joined ", " allowed ++ "; got ") := by
    simp +decide [plain, unmarked_joined listed]
  exact .quoting rfl words rfl

theorem noMember {member : String} (plain : Unmarked member) :
    w.Complaint (.noMember v.typeName member) := by
  refine .unmarked rfl ?_
  change Unmarked ("'" ++ v.typeName ++ "' object has no attribute '" ++ member ++ "'")
  simpa [Unmarked] using ⟨unmarked_typeName v, plain⟩

theorem notIterable : w.Complaint (.notIterable v.typeName) := by
  refine .unmarked rfl ?_
  change Unmarked ("'" ++ v.typeName ++ "' object is not iterable")
  simpa [Unmarked] using unmarked_typeName v

theorem noLength : w.Complaint (.noLength v.typeName) := by
  refine .unmarked rfl ?_
  change Unmarked ("object of type '" ++ v.typeName ++ "' has no len()")
  simpa [Unmarked] using unmarked_typeName v

theorem realFrom : w.Complaint (.realFrom v.typeName) := by
  refine .unmarked rfl ?_
  change Unmarked
    ("float() argument must be a string or a real number, not '" ++ v.typeName ++ "'")
  simpa [Unmarked] using unmarked_typeName v

/-- What is said of a part is said of the whole. The parts of a text are texts again, of which only
what can be said of the text itself may be said. -/
theorem of_part {vs : List (Value α)} (given : v.parts = .ok vs) (mem : w ∈ vs)
    (h : w.Complaint f) (letter : ∀ s t, v = .text s → w = .text t → v.Complaint f) :
    v.Complaint f := by
  unfold parts at given
  cases v with
  | list _ =>
    cases given
    exact .item mem h
  | tuple _ =>
    cases given
    exact .fixedItem mem h
  | object ps =>
    cases given
    obtain ⟨⟨k, x⟩, there, rfl⟩ := List.mem_map.1 mem
    exact .key there h
  | text s =>
    cases given
    obtain ⟨c, -, rfl⟩ := List.mem_map.1 mem
    exact letter s _ rfl rfl
  | _ => cases given

end Complaint

theorem Misread.of_named? {ps : Fields α} {key : String} {v : Value α} {f : Fault}
    (found : ps.named? key = some v) (h : v.Misread f) : (Value.object ps).Misread f := by
  have mem := Fields.text_mem_of_named? found
  exact h.imp (.field mem) fun ⟨n, inside, excess⟩ => ⟨n, .field mem inside, excess⟩

theorem Misread.of_mem {vs : List (Value α)} {v : Value α} {f : Fault} (mem : v ∈ vs)
    (h : v.Misread f) : (Value.list vs).Misread f :=
  h.imp (.item mem) fun ⟨n, inside, excess⟩ => ⟨n, .item mem inside, excess⟩

/-- In a value without numbers all faults are collected. -/
theorem Misread.of_null {w : Value α} {f : Fault} (h : (null : Value α).Misread f) :
    w.Misread f := by
  obtain complaint | ⟨n, inside, _⟩ := h
  · exact .inl complaint.of_null
  · cases inside

theorem Misread.of_empty {w : Value α} {f : Fault} (h : (object [] : Value α).Misread f) :
    w.Misread f := by
  obtain complaint | ⟨n, inside, _⟩ := h
  · exact .inl complaint.of_empty
  · cases inside with
    | field mem _ => cases mem

theorem Misread.of_field {ps : Fields α} {key : String} {f : Fault}
    (h : (field ps key).Misread f) : (object ps).Misread f := by
  unfold field at h
  cases given : Fields.named? ps key with
  | none =>
    rw [given] at h
    exact h.of_null
  | some v =>
    rw [given] at h
    exact h.of_named? given

theorem Misread.of_members {v : Value α} {member : String} {ps : Fields α} {f : Fault}
    (given : v.membersOrNone member = .ok ps) (h : (object ps).Misread f) : v.Misread f := by
  unfold membersOrNone at given
  split at given
  · cases v <;> cases given
    exact h
  · cases given
    exact h.of_empty

/-- Fails with collected faults only. -/
abbrev Reported {β : Type} (x : Except Fault β) : Prop :=
  FailsOnly (fun f => Graph.collected f = true) x

section

variable {β : Type} {read : Value α → Except Fault β}

/-- Fails with what can be said of the value. -/
abbrev Complains (v : Value α) (x : Except Fault β) : Prop := FailsOnly v.Complaint x

theorem Complains.misread {v : Value α} {x : Except Fault β} (h : v.Complains x) :
    FailsOnly v.Misread x :=
  h.mono fun _ => .inl

theorem Complains.reported {v : Value α} {x : Except Fault β} (h : v.Complains x) : Reported x :=
  h.mono fun _ => Complaint.collected

/-- What holds of a converter holds of it on the field of an object, if the default is fine. -/
theorem complains_fieldOr (each : ∀ v : Value α, v.Complains (read v)) (ps : Fields α)
    (key : String) (default : Value α) (usual : (object ps).Complains (read default)) :
    (object ps).Complains (read (fieldOr ps key default)) := by
  unfold fieldOr
  cases given : Fields.named? ps key with
  | none => exact usual
  | some v => exact (each v).mono fun f h => h.of_named? given

theorem complains_field (each : ∀ v : Value α, v.Complains (read v)) (ps : Fields α)
    (key : String) : (object ps).Complains (read (field ps key)) :=
  complains_fieldOr each ps key null ((each null).mono fun _ h => h.of_null)

theorem misread_fieldOr (each : ∀ v : Value α, FailsOnly v.Misread (read v)) (ps : Fields α)
    (key : String) (default : Value α) (usual : FailsOnly (object ps).Misread (read default)) :
    FailsOnly (object ps).Misread (read (fieldOr ps key default)) := by
  unfold fieldOr
  cases given : Fields.named? ps key with
  | none => exact usual
  | some v => exact (each v).mono fun f h => h.of_named? given

theorem misread_field (each : ∀ v : Value α, FailsOnly v.Misread (read v)) (ps : Fields α)
    (key : String) : FailsOnly (object ps).Misread (read (field ps key)) :=
  misread_fieldOr each ps key null ((each null).mono fun _ h => h.of_null)

end

/-! Converters that read no numbers; the name that they are given stands in their faults -/

theorem complains_toText (v : Value α) : v.Complains v.toText := .writing fun _ => .unwritable

section

variable (v : Value α) {name : String} (plain : Unmarked name)
include plain

theorem complains_asBool : v.Complains (v.asBool name) := by
  unfold asBool
  split
  · exact .ok _
  · exact .error ((Complaint.expected plain).quotingOf _)

theorem complains_asString : v.Complains (v.asString name) := by
  unfold asString
  split
  · exact .ok _
  · exact .error ((Complaint.expected plain).quotingOf _)

theorem complains_asChoice {β : Type} {choices : List β} {text : β → String}
    (listed : ∀ s ∈ choices.map text, Unmarked s) :
    v.Complains (v.asChoice name choices text) := by
  unfold asChoice
  refine (complains_toText v).bind fun given _ => ?_
  split
  · exact .ok _
  · exact .error (.notOneOf plain listed)

theorem complains_members : v.Complains (v.members name) := by
  unfold members
  split
  · exact .ok _
  · exact .error (.noMember plain)

theorem complains_membersOrNone : v.Complains (v.membersOrNone name) :=
  .ite (complains_members v plain) (.ok [])

end

section

variable (ps : Fields α) (key : String) {name : String} (plain : Unmarked name)
include plain

theorem complains_textOr (default : String) :
    (object ps).Complains ((fieldOr ps key (.text default)).asString name) :=
  complains_fieldOr (complains_asString · plain) ps key _ (.ok default)

theorem complains_boolOr (default : Bool) :
    (object ps).Complains ((fieldOr ps key (.bool default)).asBool name) :=
  complains_fieldOr (complains_asBool · plain) ps key _ (.ok default)

end

theorem complains_choiceOr (ps : Fields α) (key : String) {name word : String} {β : Type}
    {choices : List β} {text : β → String} (called : Unmarked name)
    (listed : ∀ s ∈ choices.map text, Unmarked s)
    (usual : (choices.find? fun c => text c == Text.lower word).isSome) :
    (object ps).Complains ((fieldOr ps key (.text word)).asChoice name choices text) := by
  obtain ⟨c, found⟩ := Option.isSome_iff_exists.1 usual
  have default : (Value.text word : Value α).asChoice name choices text = .ok c := by
    simp only [asChoice, toText, writing_text, bind, Except.bind, Value.plain, found]
    rfl
  refine complains_fieldOr (complains_asChoice · called listed) ps key _ ?_
  rw [default]
  exact .ok c

/-- A word that a field gives is repeated where it is none of the words allowed there. -/
theorem complains_unlisted {β : Type} (ps : Fields α) (key : String) {name default word : String}
    {allowed : List String} {next : Except Fault β} (called : Unmarked name)
    (listed : ∀ s ∈ allowed, Unmarked s) (usual : allowed.contains default = true)
    (given : (fieldOr ps key (.text default)).asString name = .ok word)
    (goOn : FailsOnly (object ps).Misread next) :
    FailsOnly (object ps).Misread
      (if !allowed.contains word then throw (.notOneOf name allowed (Text.quote word)) else next) := by
  split
  next absent =>
    unfold fieldOr at given
    cases found : Fields.named? ps key with
    | none =>
      rw [found] at given
      cases given
      rw [usual] at absent
      cases absent
    | some v =>
      rw [found] at given
      cases v <;> cases given
      exact .error (.inl (.of_named? found (.notOneOf called listed)))
  next => exact goOn

theorem complains_asShape (v : Value α) : v.Complains v.asShape := by
  have words : Unmarked "unknown room shape " := by decide
  unfold asShape
  refine (complains_toText v).bind fun given _ => ?_
  split
  · exact .ok _
  · exact .error (.quoting rfl words rfl)

theorem complains_parts (v : Value α) : v.Complains v.parts := by
  unfold parts
  split
  · exact .ok _
  · exact .error .notIterable

theorem complains_asShapes (v : Value α) (default : List RoomShape) :
    v.Complains (v.asShapes default) := by
  unfold asShapes
  split
  · exact .ok default
  · exact (complains_asShape _).bind fun shape _ => .ok [shape]
  · rename_i noText
    refine (complains_parts _).bind fun vs given => ?_
    have read : v.Complains (vs.mapM asShape) := .mapM fun w mem =>
      (complains_asShape w).mono fun f h => h.of_part given mem fun s _ same _ => absurd same (noText s)
    exact read.bind fun shapes _ => .ite (.error (.unmarked rfl (by decide))) (.ok shapes)

theorem complains_asTags (v : Value α) : v.Complains v.asTags := by
  have name : Unmarked "tag" := by decide
  unfold asTags
  split
  · exact .ok []
  · exact .mapM fun w mem => (complains_asString w name).mono fun f h => .item mem h
  · exact .error (.unmarked rfl (by decide))

/-! Converters that read numbers -/

theorem misread_toScalar (n : Number α) : FailsOnly (num n).Misread n.toScalar := by
  refine (failsOnly_toScalar n).mono fun f ⟨tooLarge, m, same, unfit⟩ => ?_
  cases same
  rw [tooLarge]
  exact .inr ⟨_, .own, .whole unfit⟩

theorem misread_toReal (v : Value α) : FailsOnly v.Misread v.toReal := by
  have words : Unmarked "could not convert string to float: " := by decide
  unfold toReal
  split
  · exact .ok _
  · exact misread_toScalar _
  · split
    · exact .ok _
    · exact .error (.inl (.quoting rfl words rfl))
  · exact .error (.inl .realFrom)

section

variable (v : Value α) {name : String} (plain : Unmarked name)
include plain

theorem misread_asNumber : FailsOnly v.Misread (v.asNumber name) := by
  unfold asNumber
  split
  · exact misread_toScalar _
  · exact .error (.inl ((Complaint.expected plain).quotingOf _))

theorem misread_asInteger : FailsOnly v.Misread (v.asInteger name) := by
  unfold asInteger
  split
  · exact .ok _
  · refine FailsOnly.bind ?_ fun n _ => .ite (.ok n) (.error (.inl (.expected plain)))
    rename_i x
    intro f failed
    cases truncated : (Scalar.truncate x : Except NoWhole Int) with
    | ok n =>
      rw [truncated] at failed
      cases failed
    | error why =>
      rw [truncated] at failed
      cases why with
      | undefined =>
        cases failed
        exact .inl (.unmarked rfl (by decide))
      | infinite =>
        cases failed
        exact .inr ⟨_, .own, .infinite truncated⟩
  · exact .error (.inl ((Complaint.expected plain).quotingOf _))

theorem misread_asSize : FailsOnly v.Misread (v.asSize name) := by
  unfold asSize
  split
  · rename_i ps
    have width : Unmarked (name ++ ".w") := unmarked_append.2 ⟨plain, by decide⟩
    have height : Unmarked (name ++ ".h") := unmarked_append.2 ⟨plain, by decide⟩
    refine (misread_field (misread_asNumber · width) ps "w").bind fun w _ => ?_
    exact (misread_field (misread_asNumber · height) ps "h").bind fun h _ => .ok _
  · exact .error (.inl (.unmarked rfl (unmarked_append.2 ⟨plain, by decide⟩)))

theorem misread_asSizeRange (default : SizeRange α) :
    FailsOnly v.Misread (v.asSizeRange default name) := by
  unfold asSizeRange
  split
  · exact .ok default
  · rename_i ps
    extract_lets corner
    have read (key : String) (d : Size α) (own : Unmarked key) :
        FailsOnly (object ps).Misread (corner key d) := by
      have dot : Unmarked "." := by decide
      have full : Unmarked (name ++ "." ++ key) := by simp [plain, dot, own]
      unfold corner
      split
      · rename_i v given
        exact (misread_asSize v full).mono fun f h => h.of_named? given
      · exact .ok d
    refine (read "min" default.low (by decide)).bind fun low _ => ?_
    exact (read "max" default.high (by decide)).bind fun high _ => .ok _
  · exact .error (.inl (.unmarked rfl (unmarked_append.2 ⟨plain, by decide⟩)))

theorem misread_asCountRange (default : CountRange) :
    FailsOnly v.Misread (v.asCountRange default name) := by
  unfold asCountRange
  split
  · exact .ok default
  · exact (misread_asInteger _ plain).bind fun n _ => .ok _
  · rename_i ps
    have low : Unmarked (name ++ ".min") := unmarked_append.2 ⟨plain, by decide⟩
    have high : Unmarked (name ++ ".max") := unmarked_append.2 ⟨plain, by decide⟩
    refine (misread_fieldOr (misread_asInteger · low) ps "min" _ (.ok default.low)).bind
      fun low _ => ?_
    exact (misread_fieldOr (misread_asInteger · high) ps "max" _ (.ok default.high)).bind
      fun high _ => .ok _
  · exact .error (.inl (.unmarked rfl (unmarked_append.2 ⟨plain, by decide⟩)))

end

theorem misread_weightsFrom (i : Nat) (vs : List (Value α)) :
    FailsOnly (list vs).Misread (weightsFrom i vs) := by
  have all (ws : List (Value α)) : ∀ i, ws ⊆ vs → FailsOnly (list vs).Misread (weightsFrom i ws) := by
    induction ws with
    | nil => exact fun _ _ => .ok []
    | cons w rest ih =>
      intro i inside
      have name : Unmarked ("weights[" ++ toString i ++ "]") := by simp +decide
      have head := (misread_asNumber w name).mono fun f h => h.of_mem (inside List.mem_cons_self)
      have tail := ih (i + 1) fun v mem => inside (List.mem_cons_of_mem w mem)
      exact head.bind fun x _ => tail.bind fun xs _ => .ok (.real x :: xs)
  exact all vs i fun _ mem => mem

theorem misread_asWeights (v default : Value α) : FailsOnly v.Misread (v.asWeights default) := by
  unfold asWeights
  split
  · exact .ok default
  · exact (misread_weightsFrom 0 _).map _
  · exact .error (.inl (.unmarked rfl (by decide)))

theorem misread_countSetting (ps : Fields α) {key : String} (plain : Unmarked key)
    (default : CountRange) : FailsOnly (object ps).Misread (countSetting ps key default) :=
  (misread_field (misread_asCountRange · plain default) ps key).map _

theorem misread_numberOr (ps : Fields α) {key : String} (plain : Unmarked key) (x : α) :
    FailsOnly (object ps).Misread ((fieldOr ps key (.real x)).asNumber key) :=
  misread_fieldOr (misread_asNumber · plain) ps key _ (.ok x)

end Value

open Value

namespace NodeData

variable (ps : Fields α)

theorem misread_readPlan (size : SizeRange α) :
    FailsOnly (object ps).Misread (readPlan ps size) := by
  have shapes := complains_fieldOr (complains_asShapes · [.rectangular]) ps "shapes"
    (field ps "shape") (complains_field (complains_asShapes · [.rectangular]) ps "shape")
  have tags := complains_field complains_asTags ps "tags"
  refine shapes.misread.bind fun shapes _ => ?_
  refine (misread_countSetting ps (by decide) _).bind fun doors _ => ?_
  refine (complains_textOr ps "roomType" (by decide) _).misread.bind fun type _ => ?_
  exact tags.misread.bind fun tags _ => .ok _

theorem misread_readStart : FailsOnly (object ps).Misread (readStart ps) :=
  (complains_choiceOr ps "spawnArea" (by decide) (by decide) rfl).misread.bind fun _ _ => .ok _

theorem misread_readOutput : FailsOnly (object ps).Misread (readOutput ps) :=
  (complains_textOr ps "exitType" (by decide) _).misread.bind fun _ _ =>
    (complains_boolOr ps "requiresKey" (by decide) _).misread.bind fun _ _ => .ok _

theorem misread_readRoom : FailsOnly (object ps).Misread (readRoom ps) :=
  (misread_field (misread_asSizeRange · (by decide) _) ps "sizeRange").bind fun size _ =>
    (misread_readPlan ps size).bind fun _ _ => .ok _

theorem misread_readRoomChain : FailsOnly (object ps).Misread (readRoomChain ps) := by
  refine (misread_countSetting ps (by decide) _).bind fun count _ => ?_
  refine (misread_field (misread_asSizeRange · (by decide) .ofChain) ps "roomSize").bind
    fun size _ => ?_
  refine (complains_choiceOr ps "connectionStyle" (by decide) (by decide) rfl).misread.bind
    fun style _ => ?_
  exact (misread_readPlan ps size).bind fun _ _ => .ok _

theorem misread_readBranch : FailsOnly (object ps).Misread (readBranch ps) :=
  (misread_field (misread_asWeights · _) ps "weights").bind fun _ _ =>
    (complains_boolOr ps "probabilistic" (by decide) _).misread.bind fun _ _ => .ok _

theorem misread_readMerge : FailsOnly (object ps).Misread (readMerge ps) :=
  (complains_choiceOr ps "strategy" (by decide) (by decide) rfl).misread.bind fun _ _ => .ok _

theorem misread_readSpawnPoint : FailsOnly (object ps).Misread (readSpawnPoint ps) := by
  refine (complains_textOr ps "entityType" (by decide) _).misread.bind fun type _ => ?_
  refine (misread_countSetting ps (by decide) _).bind fun count _ => ?_
  exact (misread_numberOr ps (by decide) 2.0).bind fun _ _ => .ok _

theorem misread_readLootDrop : FailsOnly (object ps).Misread (readLootDrop ps) := by
  refine (complains_textOr ps "lootTable" (by decide) _).misread.bind fun table _ => ?_
  refine (misread_numberOr ps (by decide) 1.0).bind fun chance _ => ?_
  exact (misread_countSetting ps (by decide) _).bind fun _ _ => .ok _

theorem misread_readEncounter : FailsOnly (object ps).Misread (readEncounter ps) := by
  refine (complains_textOr ps "difficulty" (by decide) _).misread.bind fun given _ => ?_
  refine .ite (.error (.inl (.words rfl ?_))) ?_
  · have words : Unmarked
        ("difficulty must be one of: " ++ joined ", " (difficultyLevels.map Prod.fst) ++ "; got ") := by
      decide
    exact fun marked => (Text.unmarked_lower given).not_marked
      (Text.marked_quote.1 ((marked_append words).1 marked))
  refine (complains_textOr ps "encounterType" (by decide) _).misread.bind fun type _ => ?_
  refine (misread_countSetting ps (by decide) _).bind fun count _ => ?_
  exact (complains_boolOr ps "rewardOnComplete" (by decide) _).misread.bind fun _ _ => .ok _

theorem misread_readProp : FailsOnly (object ps).Misread (readProp ps) :=
  (complains_textOr ps "propType" (by decide) _).misread.bind fun _ _ =>
    (misread_countSetting ps (by decide) _).bind fun _ _ => .ok _

theorem misread_readRandomSelect : FailsOnly (object ps).Misread (readRandomSelect ps) :=
  (misread_field (misread_asWeights · _) ps "weights").bind fun _ _ => .ok _

theorem misread_readCondition : FailsOnly (object ps).Misread (readCondition ps) := by
  refine (complains_textOr ps "operator" (by decide) _).misread.bind fun operator given => ?_
  refine complains_unlisted ps "operator" (by decide) (by decide) rfl given ?_
  exact (complains_textOr ps "parameter" (by decide) _).misread.bind fun _ _ => .ok _

theorem misread_readDistribution : FailsOnly (object ps).Misread (readDistribution ps) := by
  refine (complains_textOr ps "distribution" (by decide) _).misread.bind fun name given => ?_
  refine complains_unlisted ps "distribution" (by decide) (by decide) rfl given ?_
  refine (complains_textOr ps "variable" (by decide) _).misread.bind fun variableName _ => ?_
  refine (misread_numberOr ps (by decide) 0.0).bind fun low _ => ?_
  refine (misread_numberOr ps (by decide) 1.0).bind fun high _ => ?_
  refine (misread_numberOr ps (by decide) 2.0).bind fun power _ => ?_
  exact (misread_numberOr ps (by decide) 1.0).bind fun rate _ => .ok _

theorem misread_readFields (kind : NodeKind) :
    FailsOnly (object ps).Misread (readFields ps kind) := by
  cases kind with
  | start => exact (misread_readStart ps).map _
  | output => exact (misread_readOutput ps).map _
  | room => exact (misread_readRoom ps).map _
  | roomChain => exact (misread_readRoomChain ps).map _
  | branch => exact (misread_readBranch ps).map _
  | merge => exact (misread_readMerge ps).map _
  | spawnPoint => exact (misread_readSpawnPoint ps).map _
  | lootDrop => exact (misread_readLootDrop ps).map _
  | encounter => exact (misread_readEncounter ps).map _
  | prop => exact (misread_readProp ps).map _
  | randomSelect => exact (misread_readRandomSelect ps).map _
  | sequence => exact .ok _
  | condition => exact (misread_readCondition ps).map _
  | distribution => exact (misread_readDistribution ps).map _

theorem misread_read (kind : NodeKind) (v : Value α) : FailsOnly v.Misread (read kind v) := by
  unfold read
  apply FailsOnly.ite
  · split
    · exact misread_readFields _ kind
    · exact .error (.inl (.unmarked rfl (by decide)))
  · exact (misread_readFields [] kind).mono fun f h => h.of_empty

theorem complains_ports (d : NodeData α) (v : Value α) : v.Complains d.ports := by
  have counted (weights : Value α) : v.Complains (pathCount weights) := by
    unfold pathCount
    refine .ite (FailsOnly.bind ?_ fun _ _ => .ok _) (.ok 2)
    unfold Value.length
    split
    · exact .ok _
    · exact .error .noLength
  unfold ports
  split
  · exact (counted _).bind fun _ _ => .ok _
  · exact (counted _).bind fun _ _ => .ok _
  · exact .ok _

end NodeData

theorem complains_port (side : PortSide) (v : Value α) : v.Complains (Port.read side v) := by
  refine (complains_members v (by decide)).bind fun ps opened => ?_
  obtain rfl : v = .object ps := by
    cases v <;> cases opened
    rfl
  refine .ite_of (fun other => ?_) fun _ => ?_
  · cases found : Fields.named? ps "type" with
    | none => simp [fieldOr, found, Value.eq] at other
    | some declared =>
      simp only [fieldOr, found, Option.getD_some]
      exact .error ((Complaint.side found).quotingOf _)
  · refine (complains_field (complains_asString · (by decide)) ps "id").bind fun id _ => ?_
    exact (complains_textOr ps "dataType" (by decide) _).bind fun _ _ => .ok _

theorem complains_readPorts (ps : Fields α) (key : String) (side : PortSide)
    (default : List (Port α)) : (object ps).Complains (Node.readPorts ps key side default) := by
  have each (v : Value α) : v.Complains (v.parts >>= fun vs => vs.mapM (Port.read side)) := by
    refine (complains_parts v).bind fun vs given => .mapM fun w mem f failed => ?_
    refine (complains_port side w f failed).of_part given mem fun s t _ same => ?_
    -- The letters of a text are no objects.
    subst same
    cases failed
    exact .noMember (v := .text t) (by decide)
  unfold Node.readPorts
  split
  · exact .ok default
  · exact complains_field each ps key

theorem reported_edge (index : Int) (v : Value α) : Reported (Edge.read index v) := by
  have get : Unmarked "get" := by decide
  have ending (side : String) (ps : Fields α) (plain : Unmarked side) :
      Reported (Edge.readEnd side ps) := by
    have node : Unmarked (side ++ ".nodeId") := unmarked_append.2 ⟨plain, by decide⟩
    have port : Unmarked (side ++ ".portId") := unmarked_append.2 ⟨plain, by decide⟩
    refine (complains_asString _ node).reported.bind fun _ _ => ?_
    exact (complains_asString _ port).reported.bind fun _ _ => .ok _
  have part (w : Value α) : Reported (w.membersOrNone "get") :=
    (complains_membersOrNone w get).reported
  refine (complains_members v get).reported.bind fun ps _ => ?_
  refine (complains_toText _).reported.bind fun id _ => ?_
  refine (part _).bind fun start _ => (ending "source" _ (by decide)).bind fun _ _ => ?_
  refine (part _).bind fun goal _ => (ending "target" _ (by decide)).bind fun _ _ => ?_
  exact (part _).bind fun _ _ => .ok _

omit [Scalar α] in
/-- A text quotes no number. -/
theorem quoting_text (s : String) (f : Fault) : Fault.quoting [(text s : Value α)] f = f := rfl

/-- The entry has an id and a type, but there are no nodes of that type. -/
def Value.Untyped (v : Value α) : Prop :=
  ∃ ps id type, v = .object ps ∧ field ps "id" = .text id ∧ field ps "type" = .text type ∧
    NodeKind.ofName? type = none

theorem Value.Untyped.read_eq {v : Value α} (untyped : v.Untyped) :
    ∃ got, Node.read v = .error (.unknownNodeType got) := by
  obtain ⟨ps, id, type, rfl, named, typed, unknown⟩ := untyped
  refine ⟨(Value.text type : Value α).quoted, ?_⟩
  simp only [Node.read, members, named, typed, asString, NodeKind.read, text?, unknown, bind, Except.bind,
    Option.bind, quoting_text]

omit [Scalar α] in
theorem named?_of_field {ps : Fields α} {key s : String} (given : field ps key = .text s) :
    ps.named? key = some (.text s) := by
  unfold field at given
  cases found : Fields.named? ps key with
  | none =>
    rw [found] at given
    cases given
  | some v =>
    rw [found] at given
    exact congrArg some given

theorem eq_text_of_asString {v : Value α} {name s : String} (given : v.asString name = .ok s) :
    v = .text s := by
  cases v <;> cases given
  rfl

/-- A node that cannot be read has a type that there are no nodes of, or there is something to say of
it, or it holds a number that is too large. -/
theorem refused_node (v : Value α) :
    FailsOnly (fun f => (v.Untyped ∧ ∃ got, f = .unknownNodeType got) ∨ v.Misread f) (Node.read v) := by
  have get : Unmarked "get" := by decide
  have said {β : Type} {x : Except Fault β} (h : FailsOnly v.Misread x) :
      FailsOnly (fun f => (v.Untyped ∧ ∃ got, f = .unknownNodeType got) ∨ v.Misread f) x :=
    h.mono fun _ => .inr
  unfold Node.read
  refine (said (complains_members v get).misread).bind fun ps opened => ?_
  obtain rfl : v = .object ps := by
    cases v <;> cases opened
    rfl
  have name : Unmarked "node id" := by decide
  refine (said (complains_field (complains_asString · name) ps "id").misread).bind
    fun id named => ?_
  have named := eq_text_of_asString named
  refine FailsOnly.bind ?_ fun type typed => ?_
  · unfold asString
    split
    · exact .ok _
    · exact .error (.inr (.inl ((Complaint.type (named?_of_field named)).quotingOf _)))
  have typed := eq_text_of_asString typed
  refine FailsOnly.bind ?_ fun kind _ => said ?_
  · unfold NodeKind.read
    split
    · exact .ok _
    · rename_i unknown
      exact .error (.inl ⟨⟨ps, id, type, rfl, named, typed, unknown⟩, _, rfl⟩)
  refine (misread_field (NodeData.misread_read kind) ps "data").bind fun data _ => ?_
  refine (NodeData.complains_ports data _).misread.bind fun ports _ => ?_
  refine (complains_readPorts ps "inputs" _ _).misread.bind fun inputs _ => ?_
  refine (complains_readPorts ps "outputs" _ _).misread.bind fun outputs _ => ?_
  have position := complains_field (complains_membersOrNone · get) ps "position"
  refine position.misread.bind fun place given => ?_
  have coordinate (key : String) : FailsOnly (object ps).Misread
      ((fieldOr place key (.real 0.0)).toReal) :=
    (misread_fieldOr misread_toReal place key (.real 0.0) (.ok _)).mono
      fun f h => (h.of_members given).of_field
  exact (coordinate "x").bind fun x _ => (coordinate "y").bind fun y _ => .ok _

/-- A node that cannot be read is reported, or it holds a number that is too large. -/
theorem misread_node (v : Value α) :
    FailsOnly (fun f => Graph.collected f = true ∨ v.Excess f) (Node.read v) := by
  refine (refused_node v).mono fun f refused => ?_
  obtain ⟨-, got, rfl⟩ | complaint | excess := refused
  · exact .inl rfl
  · exact .inl complaint.collected
  · exact .inr excess

end Dungeon
