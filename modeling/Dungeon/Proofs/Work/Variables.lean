import Dungeon.Proofs.Fields
import Dungeon.Proofs.Work.Performing

/-!
# Where variables come from

Only distributions set variables. The other nodes pass on what the fragments that came to them have, and
a merge joins it, so every variable of a fragment was set by a distribution on its way.
-/

namespace Dungeon

variable {σ α : Type} [Scalar α]

namespace Fields

/-- Under a name stands what stood there, or what is entered under this name. -/
theorem text_mem_of_mem_insert {fields : Fields α} {k v w : Value α} {s : String}
    (member : (.text s, w) ∈ fields.insert k v) : (.text s, w) ∈ fields ∨ k = .text s ∧ w = v := by
  induction fields with
  | nil =>
    cases List.mem_singleton.1 member
    exact .inr ⟨rfl, rfl⟩
  | cons p rest ih =>
    rw [insert_cons] at member
    split at member
    next same =>
      rcases List.mem_cons.1 member with here | later
      · obtain ⟨name, rfl⟩ := Prod.mk.inj here
        exact .inr ⟨Value.eq_of_eq_text (name ▸ same), rfl⟩
      · exact .inl (List.mem_cons_of_mem p later)
    next =>
      rcases List.mem_cons.1 member with here | later
      · exact .inl (here ▸ List.mem_cons_self)
      · exact (ih later).imp_left (List.mem_cons_of_mem p)

theorem text_mem_of_mem_extend {fields more : Fields α} {s : String} {w : Value α}
    (member : (.text s, w) ∈ fields.extend more) : (.text s, w) ∈ fields ∨ (.text s, w) ∈ more := by
  induction more generalizing fields with
  | nil => exact .inl member
  | cons p rest ih =>
    rcases ih (extend_cons fields p rest ▸ member) with before | later
    · refine (text_mem_of_mem_insert before).imp_right fun ⟨name, value⟩ => ?_
      rw [← name, value]
      exact List.mem_cons_self
    · exact .inr (List.mem_cons_of_mem p later)

end Fields

namespace Fragment

/-- Whatever the fragment has under a name was set so. -/
def SetBy (P : String → Value α → Prop) (f : Fragment α) : Prop :=
  ∀ name v, (.text name, v) ∈ f.vars → P name v

variable {P Q : String → Value α → Prop} {f g : Fragment α}

omit [Scalar α] in
theorem SetBy.mono (h : f.SetBy P) (weaker : ∀ name v, P name v → Q name v) : f.SetBy Q :=
  fun name v member => weaker name v (h name v member)

omit [Scalar α] in
theorem SetBy.of_vars (h : f.SetBy P) (same : g.vars = f.vars) : g.SetBy P :=
  fun name v member => h name v (same ▸ member)

theorem setBy_empty : (empty : Fragment α).SetBy P := fun _ _ member => nomatch member

theorem SetBy.withVariable (h : f.SetBy P) {key v : Value α}
    (own : ∀ name, key = .text name → P name v) : (f.withVariable key v).SetBy P := by
  intro name w member
  rcases Fields.text_mem_of_mem_insert member with before | ⟨same, rfl⟩
  · exact h name w before
  · exact own name same

/-- What comes out of a merge was set on what came in. -/
theorem setBy_merge {fs : List (Fragment α)} (merged : merge fs = .ok f) (h : ∀ g ∈ fs, g.SetBy P) :
    f.SetBy P := by
  have gathered (gs : List (Fragment α)) (base : Fields α) {name : String} {v : Value α}
      (member : (.text name, v) ∈ gs.foldl (fun fields g => fields.extend g.vars) base) :
      (.text name, v) ∈ base ∨ ∃ g ∈ gs, (.text name, v) ∈ g.vars := by
    induction gs generalizing base with
    | nil => exact .inl member
    | cons g rest ih =>
      rcases ih (base.extend g.vars) member with before | ⟨g', there, later⟩
      · refine (Fields.text_mem_of_mem_extend before).imp_right fun own => ?_
        exact ⟨g, List.mem_cons_self, own⟩
      · exact .inr ⟨g', List.mem_cons_of_mem g there, later⟩
  match fs with
  | [] => cases merged
  | [g] =>
    cases merged
    exact h _ List.mem_cons_self
  | g :: g' :: rest =>
    cases merged
    intro name v member
    rcases gathered (g :: g' :: rest) [] member with nothing | ⟨k, there, own⟩
    · cases nothing
    · exact h k there name v own

end Fragment

/-- The node is a distribution that sets the variable to a number. -/
def Node.Sets (n : Node α) (name : String) (v : Value α) : Prop :=
  ∃ d, n.data = .distribution d ∧ d.variableName.key = .ok (.text name) ∧ ∃ x, v = .real x

namespace Job

variable {P : String → Value α → Prop} {j : Job α} {incoming : List (Fragment α)}

/-- The variables of all that leaves were set so. -/
def Hands (P : String → Value α → Prop) (out : Outcome α) : Prop := ∀ f, Leaves out f → f.SetBy P

omit [Scalar α] in
theorem hands_everywhere {f : Fragment α} (h : f.SetBy P) : Hands P (j.everywhere f) :=
  fun _ left => j.eq_of_leaves_everywhere left ▸ h

omit [Scalar α] in
theorem hands_only {f : Fragment α} {chosen : String} (h : f.SetBy P) : Hands P (j.only f chosen) :=
  fun _ left => j.eq_of_leaves_only left ▸ h

omit [Scalar α] in
theorem hands_of_keeps {out : Outcome α} (keeps : Keeps out) : Hands P out :=
  fun _ left => absurd (keeps ▸ left) not_leaves_empty

/-- What came to a node as one fragment was set so if all that came was. -/
theorem yields_single (arrived : ∀ f ∈ incoming, f.SetBy P) :
    Yields (j.single incoming : Work σ α (Fragment α)) fun f => f.SetBy P := by
  refine .ite (.fail j _) fun s f t done => ?_
  exact Fragment.setBy_merge (Work.lift_eq_ok.1 done).1 arrived

theorem yields_continueFrom {f : Fragment α} (h : f.SetBy P) (roomId : String) :
    Yields (continueFrom f roomId : Work σ α (Fragment α)) fun g => g.SetBy P :=
  .bind fun _ => .pure (h.of_vars rfl)

variable [Source σ α]

theorem hands_start (d : StartData α) : Yields (j.start d : Work σ α (Outcome α)) (Hands P) := by
  have placed (area : SpawnArea) (offset : Point α) :
      Yields (do
        Work.write fun draft => draft.setPlayerStart area offset
        pure (j.everywhere Fragment.empty) : Work σ α (Outcome α)) (Hands P) :=
    .bind fun _ => .pure (hands_everywhere Fragment.setBy_empty)
  unfold start
  dsimp only
  split
  · exact .bind fun _ => .bind fun _ => .bind fun _ => placed _ _
  · exact .bind fun _ => placed _ _

theorem hands_room (d : RoomData α) (arrived : ∀ f ∈ incoming, f.SetBy P) :
    Yields (j.room d incoming : Work σ α (Outcome α)) (Hands P) := by
  refine .bind fun _ => (yields_single arrived).after fun f own => .bind fun _ => .bind fun _ => ?_
  exact (yields_continueFrom own _).after fun g on => .pure (hands_everywhere on)

theorem hands_roomChain (d : RoomChainData α) (arrived : ∀ f ∈ incoming, f.SetBy P) :
    Yields (j.roomChain d incoming : Work σ α (Outcome α)) (Hands P) := by
  refine .bind fun _ => (yields_single arrived).after fun f own => .bind fun _ => ?_
  split
  · exact .pure (hands_everywhere own)
  · refine .bind fun _ => .bind fun _ => .bind fun _ => ?_
    exact (yields_continueFrom own _).after fun g on => .pure (hands_everywhere on)

theorem hands_branch (d : BranchData α) (arrived : ∀ f ∈ incoming, f.SetBy P) :
    Yields (j.branch d incoming : Work σ α (Outcome α)) (Hands P) := by
  refine (yields_single arrived).after fun f own => .bind fun weights => ?_
  have path {port : String} {g : Fragment α} (there : (port, g) ∈ j.paths f weights) : g.SetBy P := by
    obtain ⟨_, _, pair⟩ := List.mem_map.1 there
    cases pair
    exact own.of_vars rfl
  refine .ite (.bind fun i => .pure ?_) (.pure ?_)
  · rintro g ⟨port, left⟩
    rw [Table.find?, Table.lookup_map port fun id f => if id = j.portId i then some f else none] at left
    obtain ⟨k, found, chosen⟩ := Option.map_eq_some_iff.1 (Option.join_eq_some_iff.1 left)
    split at chosen
    · cases chosen
      exact path (Table.mem_of_find?_ofList found)
    · cases chosen
  · rintro g ⟨port, left⟩
    rw [Table.find?_map] at left
    obtain ⟨k, found, chosen⟩ := Option.map_eq_some_iff.1 (Option.join_eq_some_iff.1 left)
    cases chosen
    exact path (Table.mem_of_find?_ofList found)

theorem hands_randomSelect (d : RandomSelectData α) (arrived : ∀ f ∈ incoming, f.SetBy P) :
    Yields (j.randomSelect d incoming : Work σ α (Outcome α)) (Hands P) := by
  refine (yields_single arrived).after fun f own => .bind fun _ => .bind fun _ => .pure ?_
  exact hands_only (own.of_vars rfl)

omit [Source σ α] in
theorem hands_merge (arrived : ∀ f ∈ incoming, f.SetBy P) :
    Yields (j.merge incoming : Work σ α (Outcome α)) (Hands P) :=
  (yields_single arrived).after fun _ own => .pure (hands_everywhere own)

omit [Source σ α] in
theorem hands_condition (d : ConditionData α) (arrived : ∀ f ∈ incoming, f.SetBy P) :
    Yields (j.condition d incoming : Work σ α (Outcome α)) (Hands P) := by
  refine (yields_single arrived).after fun f own => .bind fun _ => ?_
  split
  · exact .failOver j _ _
  · split
    · exact .pure (hands_only own)
    · refine .ite (.failOver j _ _) fun s out t done => ?_
      cases done

theorem hands_distribution (d : DistributionData α) (arrived : ∀ f ∈ incoming, f.SetBy P)
    (sets : ∀ name x, d.variableName.key = .ok (.text name) → P name (.real x)) :
    Yields (j.distribution d incoming : Work σ α (Outcome α)) (Hands P) := by
  refine (yields_single arrived).after fun f own => .bind fun _ => .ite (.bind fun _ => ?_) ?_
  all_goals
    refine .bind fun _ => .bind fun x s out t done => ?_
    obtain ⟨key, s', lifted, done⟩ := bind_eq_ok.1 done
    obtain ⟨kept, _⟩ := Work.lift_eq_ok.1 lifted
    obtain ⟨rfl, _⟩ := pure_eq_ok.1 done
    exact hands_everywhere (own.withVariable fun name same => sets name x (same ▸ kept))

/-- The variables of what leaves a node were set before it came there or by the node itself. -/
theorem hands_perform (arrived : ∀ f ∈ incoming, f.SetBy P)
    (sets : ∀ name v, j.node.Sets name v → P name v) :
    Yields (j.perform incoming : Work σ α (Outcome α)) (Hands P) := by
  have kept {w : Work σ α (Outcome α)} (keeps : Yields w Keeps) : Yields w (Hands P) :=
    fun s out t done => hands_of_keeps (keeps s out t done)
  unfold perform
  cases data : j.node.data with
  | start d => exact hands_start d
  | output d => exact kept (j.output_keeps d incoming)
  | room d => exact hands_room d arrived
  | roomChain d => exact hands_roomChain d arrived
  | branch d => exact hands_branch d arrived
  | merge d => exact hands_merge arrived
  | spawnPoint d => exact kept (j.spawnPoint_keeps d incoming)
  | lootDrop d => exact kept (j.lootDrop_keeps d incoming)
  | encounter d => exact kept (j.encounter_keeps d incoming)
  | prop d => exact kept (j.prop_keeps d incoming)
  | randomSelect d => exact hands_randomSelect d arrived
  | sequence d => exact hands_merge arrived
  | condition d => exact hands_condition d arrived
  | distribution d =>
    exact hands_distribution d arrived fun name x named => sets name _ ⟨d, data, named, x, rfl⟩

end Job

end Dungeon
