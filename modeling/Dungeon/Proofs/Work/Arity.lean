import Dungeon.Graph.Blueprint
import Dungeon.Graph.Reader
import Dungeon.Proofs.Work.Sparing
import Dungeon.Random.Dice

/-!
# Weights and the ports that they get

A node that chooses among paths is given an output port for each of its weights, and at least two. When
it works it wants as many ports as weights. So the ports that a node gets by default suit its weights
unless there is a single one, and then the node fails whenever it works.
-/

namespace Dungeon

variable {σ α : Type}

/-- The weights of the paths, for the kinds of nodes that have some. -/
def NodeData.weights? : NodeData α → Option (Value α)
  | .branch d => some d.weights
  | .randomSelect d => some d.weights
  | _ => none

/-- The node fails because it has more weights than ports, or fewer. -/
def Node.Misfit (n : Node α) (f : Fault) : Prop :=
  ∃ given paths : Nat, f = .node n.id
    (toString given ++ " weights configured for " ++ toString paths ++ " output paths")

/-- The text begins with a word, a sign or a mark, and not with a number. -/
def Text.Worded (s : String) : Prop := ∃ c, s.toList.head? = some c ∧ c.isDigit = false

theorem Text.Worded.append {s : String} (h : Worded s) (t : String) : Worded (s ++ t) := by
  obtain ⟨c, first, plain⟩ := h
  exact ⟨c, by simp [first], plain⟩

theorem Text.not_worded_number (n : Nat) (t : String) : ¬ Worded (toString n ++ t) := by
  rintro ⟨c, first, plain⟩
  obtain ⟨d, rest, digits⟩ := List.exists_cons_of_ne_nil (Nat.toDigits_ne_nil (b := 10) (n := n))
  have digit : d.isDigit = true :=
    Nat.isDigit_of_mem_toDigits (by decide) (by decide) (digits ▸ List.mem_cons_self)
  have same : d = c := by simpa [Nat.toString_eq_repr, digits] using first
  rw [same, plain] at digit
  cases digit

/-- What the fault says is no count, and neither is the reason that a node gives. -/
structure Fault.Worded (f : Fault) : Prop where
  message : Text.Worded f.message
  reason : ∀ {id reason}, f = .node id reason → Text.Worded reason

open Fault (Worded)

theorem Fault.worded_node {id reason : String} (worded : Text.Worded reason) :
    (node id reason).Worded where
  message := .append (.append (.append ⟨_, rfl, rfl⟩ _) _) _
  reason same := by
    cases same
    exact worded

theorem Node.Misfit.not_worded {n : Node α} {f : Fault} (misfit : n.Misfit f) : ¬ f.Worded := by
  obtain ⟨given, paths, rfl⟩ := misfit
  intro worded
  have said := worded.reason rfl
  rw [String.append_assoc, String.append_assoc] at said
  exact Text.not_worded_number _ _ said

/-! Of all that the steps of a choice say when they fail, only a misfit begins with a number -/

section
variable [Scalar α]

theorem worded_compare (r : Value.Relation) (a b : Value α) :
    FailsOnly Worded (Value.compare r a b) := by
  refine .mapError (g := Value.Unordered.fault) (fun u => ⟨?_, nofun⟩) _
  exact .append (.append (.append (.append (.append (.append ⟨_, rfl, rfl⟩ _) _) _) _) _) _

theorem worded_toReal (v : Value α) : FailsOnly Worded v.toReal := by
  have large : Worded .tooLarge := ⟨⟨_, rfl, rfl⟩, nofun⟩
  have unreadable (got : String) : Worded (.unreadableReal got) := ⟨.append ⟨_, rfl, rfl⟩ _, nofun⟩
  have foreign (type : String) : Worded (.realFrom type) :=
    ⟨.append (.append ⟨_, rfl, rfl⟩ _) _, nofun⟩
  unfold Value.toReal
  split
  · exact .ok _
  · exact (failsOnly_toScalar _).mono fun f ⟨tooLarge, _⟩ => tooLarge ▸ large
  · split
    · exact .ok _
    · exact .error (unreadable _)
  · exact .error (foreign _)

theorem worded_sum (xs : List α) :
    FailsOnly Worded ((Scalar.sum xs).mapError Decimal.NoSum.fault) :=
  .mapError (fun e => by cases e <;> exact ⟨⟨_, rfl, rfl⟩, nofun⟩) _

theorem worded_normalised (weights : List (Value α)) : FailsOnly Worded (normalised weights) := by
  have unwritable : Worded .unwritable := ⟨.append (.append ⟨_, rfl, rfl⟩ _) _, nofun⟩
  exact failsOnly_normalised worded_compare worded_toReal worded_sum
    (fun _ => ⟨.append ⟨_, rfl, rfl⟩ _, nofun⟩) unwritable ⟨⟨_, rfl, rfl⟩, nofun⟩
    ⟨⟨_, rfl, rfl⟩, nofun⟩ weights

end

theorem truthy_iff_of_parts [Scalar α] {w : Value α} {ws : List (Value α)} (parts : w.parts = .ok ws) :
    w.truthy = true ↔ ws ≠ [] := by
  cases w <;> cases parts <;> simp [Value.truthy]

theorem length_of_parts {w : Value α} {ws : List (Value α)} (parts : w.parts = .ok ws) :
    w.length = .ok ws.length := by
  unfold Value.parts at parts
  unfold Value.length
  split at parts
  · cases parts
    simp [*]
  · cases parts

namespace Job

open Work

variable [Scalar α] {j : Job α} {incoming : List (Fragment α)} {s : Site σ α} {w : Value α}
  {ws : List (Value α)}

theorem errs_single : Errs Worded (j.single incoming : Work σ α (Fragment α)) := by
  have none_arrived : Worded (.node j.node.id "no upstream fragment arrived") :=
    Fault.worded_node ⟨_, rfl, rfl⟩
  have none_merged : Worded .nothingToMerge := ⟨⟨_, rfl, rfl⟩, nofun⟩
  refine .ite (.throw none_arrived) (.lift ?_)
  unfold Fragment.merge
  split
  · exact .error none_merged
  · exact .ok _
  · exact .ok _

theorem single_ok (some_arrived : incoming ≠ []) : ∃ f, j.single incoming s = .ok f s := by
  unfold single
  rw [if_neg (by simpa using some_arrived)]
  rcases incoming with _ | ⟨f, _ | ⟨g, rest⟩⟩
  · exact absurd rfl some_arrived
  · exact ⟨f, rfl⟩
  · exact ⟨_, rfl⟩

/-- Weights are first counted, and then scaled. -/
theorem pathWeights_of_parts (parts : w.parts = .ok ws) :
    j.pathWeights w s = if ws.length = j.node.outputs.length then
        j.blame (lift (normalised ws)) s
      else .error (.node j.node.id (toString ws.length ++ " weights configured for " ++
        toString j.node.outputs.length ++ " output paths")) s := by
  unfold pathWeights
  rw [length_of_parts parts, parts]
  by_cases suits : ws.length = j.node.outputs.length
  · rw [if_pos suits]
    show (if ws.length ≠ j.node.outputs.length then _ else _ : Work σ α (List α)) s = _
    rw [if_neg (not_not.2 suits)]
    rfl
  · rw [if_neg suits]
    show (if ws.length ≠ j.node.outputs.length then _ else _ : Work σ α (List α)) s = _
    rw [if_pos suits]
    rfl

theorem errs_pathWeights (parts : w.parts = .ok ws) (suits : ws.length = j.node.outputs.length) :
    Errs Worded (j.pathWeights w : Work σ α (List α)) := by
  intro s f t failed
  rw [pathWeights_of_parts parts, if_pos suits] at failed
  have blamed (f : Fault) (worded : f.Worded) (_ : f.kind = .value) :
      (Fault.node j.node.id f.message).Worded := Fault.worded_node worded.message
  exact Errs.blame j (.lift (worded_normalised ws)) blamed failed

variable [Source σ α]

theorem errs_weightedIndex (weights : List α) :
    Errs Worded (draw (Draw.weightedIndex weights) : Work σ α Nat) :=
  .draw (.weightedIndex worded_sum ⟨⟨_, rfl, rfl⟩, nofun⟩ ⟨⟨_, rfl, rfl⟩, nofun⟩
    ⟨⟨_, rfl, rfl⟩, nofun⟩ ⟨⟨_, rfl, rfl⟩, nofun⟩ weights)

/-- A node whose weights suit its ports never fails over their numbers. -/
theorem errs_perform (chosen : j.node.data.weights? = some w) (given : w.truthy = true)
    (parts : w.parts = .ok ws) (suits : ws.length = j.node.outputs.length) :
    Errs Worded (j.perform incoming : Work σ α (Outcome α)) := by
  unfold perform
  cases data : j.node.data with
  | branch d =>
    rw [data] at chosen
    cases chosen
    refine .bind errs_single fun f => .bind (errs_pathWeights parts suits) fun weights => ?_
    exact .ite (.bind (errs_weightedIndex _) fun i => .pure _) (.pure _)
  | randomSelect d =>
    rw [data] at chosen
    cases chosen
    refine .bind errs_single fun f => .bind ?_ fun weights => ?_
    · rw [if_pos given]
      exact errs_pathWeights parts suits
    · exact .bind (errs_weightedIndex _) fun i => .pure _
  | _ =>
    rw [data] at chosen
    cases chosen

/-- A node whose weights do not suit its ports fails over their numbers whenever something arrives. -/
theorem perform_misfit (chosen : j.node.data.weights? = some w) (given : w.truthy = true)
    (parts : w.parts = .ok ws) (unfit : ws.length ≠ j.node.outputs.length)
    (some_arrived : incoming ≠ []) :
    j.perform incoming s = .error (.node j.node.id (toString ws.length ++ " weights configured for " ++
      toString j.node.outputs.length ++ " output paths")) s := by
  obtain ⟨f, single⟩ := single_ok (j := j) (s := s) some_arrived
  have failed := pathWeights_of_parts (j := j) (s := s) parts
  rw [if_neg unfit] at failed
  unfold perform
  cases data : j.node.data with
  | branch d =>
    rw [data] at chosen
    cases chosen
    exact bind_eq_error.2 (.inr ⟨f, s, single, bind_eq_error.2 (.inl failed)⟩)
  | randomSelect d =>
    rw [data] at chosen
    cases chosen
    refine bind_eq_error.2 (.inr ⟨f, s, single, bind_eq_error.2 (.inl ?_)⟩)
    rw [if_pos given]
    exact failed
  | _ =>
    rw [data] at chosen
    cases chosen

end Job

/-! Ports by default -/

section
variable [Scalar α]

theorem length_weightsFrom {i : Nat} {vs given : List (Value α)}
    (read : Value.weightsFrom i vs = .ok given) : given.length = vs.length := by
  induction vs generalizing i given with
  | nil =>
    cases read
    rfl
  | cons v rest ih =>
    obtain ⟨x, _, read⟩ := except_bind_eq_ok.1 read
    obtain ⟨more, read_rest, read⟩ := except_bind_eq_ok.1 read
    cases read
    rw [List.length_cons, List.length_cons, ih read_rest]

/-- A list of weights is read as so many numbers. -/
theorem parts_of_asWeights {ws : List (Value α)} {default w : Value α}
    (read : (Value.list ws).asWeights default = .ok w) :
    ∃ given, w.parts = .ok given ∧ given.length = ws.length := by
  have read : Value.tuple <$> Value.weightsFrom 0 ws = .ok w := read
  cases numbers : Value.weightsFrom 0 ws with
  | error f =>
    rw [numbers] at read
    cases read
  | ok given =>
    rw [numbers] at read
    cases read
    exact ⟨given, rfl, length_weightsFrom numbers⟩

theorem weights_of_readFields {fields : Fields α} {kind : NodeKind} {data : NodeData α}
    (given : NodeData.readFields fields kind = .ok data)
    (chooses : data.kind = .branch ∨ data.kind = .randomSelect) :
    ∃ w default, data.weights? = some w ∧
      (Value.field fields "weights").asWeights default = .ok w := by
  have built {β : Type} {x : Except Fault β} {make : β → NodeData α} (h : make <$> x = .ok data) :
      ∃ d, x = .ok d ∧ make d = data := by
    cases x with
    | error f => cases h
    | ok d => exact ⟨d, rfl, Except.ok.inj h⟩
  cases kind with
  | branch =>
    obtain ⟨d, read, rfl⟩ := built given
    obtain ⟨w, weights, read⟩ := except_bind_eq_ok.1 read
    obtain ⟨probabilistic, _, read⟩ := except_bind_eq_ok.1 read
    cases read
    exact ⟨w, _, rfl, weights⟩
  | randomSelect =>
    obtain ⟨d, read, rfl⟩ := built given
    obtain ⟨w, weights, read⟩ := except_bind_eq_ok.1 read
    cases read
    exact ⟨w, _, rfl, weights⟩
  | sequence =>
    cases given
    simp [NodeData.kind] at chooses
  | _ =>
    obtain ⟨d, _, rfl⟩ := built given
    simp [NodeData.kind] at chooses

/-- Weights get a port each, and at least two. -/
theorem length_outputs_of_ports {data : NodeData α} {w : Value α} (chosen : data.weights? = some w)
    {ws : List (Value α)} (parts : w.parts = .ok ws) {ports : PortLists α}
    (given : data.ports = .ok ports) : ports.outputs.length = Nat.max 2 ws.length := by
  have count : pathCount w = .ok (Nat.max 2 ws.length) := by
    unfold pathCount
    rw [length_of_parts parts]
    by_cases some_given : ws = []
    · rw [if_neg (by simp [truthy_iff_of_parts parts, some_given]), some_given]
      rfl
    · rw [if_pos ((truthy_iff_of_parts parts).2 some_given)]
      rfl
  cases data with
  | branch d =>
    cases chosen
    obtain ⟨n, counted, given⟩ := except_bind_eq_ok.1 given
    cases count.symm.trans counted
    cases given
    exact length_pathPorts _ _ _
  | randomSelect d =>
    cases chosen
    obtain ⟨n, counted, given⟩ := except_bind_eq_ok.1 given
    cases count.symm.trans counted
    cases given
    exact length_pathPorts _ _ _
  | _ => cases chosen

/-- The output ports of the node are those that it gets by default for these weights: it is made from
settings with them, or read from an object that lists them, and no outputs. -/
inductive Node.Defaults (ws : List (Value α)) (n : Node α) : Prop
  | made {id : String} {data : NodeData α} {inputs : Option (List (Port α))} {position : Position α}
      {w : Value α} : Blueprint.fresh id data inputs none position = .ok n →
      data.weights? = some w → w.parts = .ok ws → n.Defaults ws
  | read {ps fields : Fields α} : Node.read (.object ps) = .ok n →
      n.kind = .branch ∨ n.kind = .randomSelect → Value.field ps "outputs" = .null →
      Value.field ps "data" = .object fields → Value.field fields "weights" = .list ws → n.Defaults ws

/-- The node has as many weights as were given, and a port for each, but at least two. -/
theorem Node.Defaults.counts {ws : List (Value α)} {n : Node α} (h : n.Defaults ws) :
    ∃ w given, n.data.weights? = some w ∧ w.parts = .ok given ∧ given.length = ws.length ∧
      n.outputs.length = Nat.max 2 ws.length := by
  cases h with
  | @made id data inputs position w made chosen parts =>
    obtain ⟨ports, given, made⟩ := except_bind_eq_ok.1 made
    cases made
    exact ⟨w, ws, chosen, parts, rfl, length_outputs_of_ports chosen parts given⟩
  | @read ps fields read chooses outputs settings weights =>
    obtain ⟨_, members, read⟩ := except_bind_eq_ok.1 read
    cases members
    obtain ⟨id, _, read⟩ := except_bind_eq_ok.1 read
    obtain ⟨type, _, read⟩ := except_bind_eq_ok.1 read
    obtain ⟨kind, _, read⟩ := except_bind_eq_ok.1 read
    obtain ⟨data, given, read⟩ := except_bind_eq_ok.1 read
    obtain ⟨ports, defaults, read⟩ := except_bind_eq_ok.1 read
    obtain ⟨ins, _, read⟩ := except_bind_eq_ok.1 read
    obtain ⟨outs, listed, read⟩ := except_bind_eq_ok.1 read
    obtain ⟨place, _, read⟩ := except_bind_eq_ok.1 read
    obtain ⟨x, _, read⟩ := except_bind_eq_ok.1 read
    obtain ⟨y, _, read⟩ := except_bind_eq_ok.1 read
    cases read
    have same : outs = ports.outputs := by
      rw [Node.readPorts, outputs] at listed
      exact (Except.ok.inj listed).symm
    have some_fields : (Value.object fields).truthy = true := by
      cases fields with
      | nil => cases weights
      | cons => rfl
    rw [settings, NodeData.read, if_pos some_fields] at given
    obtain ⟨w, default, chosen, read⟩ := weights_of_readFields given chooses
    rw [weights] at read
    obtain ⟨numbers, parts, length⟩ := parts_of_asWeights read
    refine ⟨w, numbers, chosen, parts, length, ?_⟩
    rw [← length]
    exact same ▸ length_outputs_of_ports chosen parts defaults

variable [Source σ α] {ws : List (Value α)} {j : Job α}

theorem Node.Defaults.perform_several (built : j.node.Defaults ws) (several : 1 < ws.length)
    {incoming : List (Fragment α)} {s t : Site σ α} {f : Fault}
    (failed : j.perform incoming s = .error f t) : ¬ j.node.Misfit f := by
  obtain ⟨w, given, chosen, parts, same, paths⟩ := built.counts
  have suits : given.length = j.node.outputs.length := by
    rw [same, paths]
    exact (Nat.max_eq_right several).symm
  have truthy : w.truthy = true :=
    (truthy_iff_of_parts parts).2 (List.ne_nil_of_length_pos (by omega))
  exact fun misfit => misfit.not_worded (Job.errs_perform chosen truthy parts suits failed)

theorem Node.Defaults.perform_single (built : j.node.Defaults ws) (single : ws.length = 1)
    {incoming : List (Fragment α)} (arrived : incoming ≠ []) (s : Site σ α) :
    j.perform incoming s = .error (.node j.node.id "1 weights configured for 2 output paths") s := by
  obtain ⟨w, given, chosen, parts, same, paths⟩ := built.counts
  have one : given.length = 1 := same.trans single
  have two : j.node.outputs.length = 2 := by
    rw [paths, single]
    rfl
  have truthy : w.truthy = true :=
    (truthy_iff_of_parts parts).2 (List.ne_nil_of_length_pos (by omega))
  have failed := Job.perform_misfit (s := s) chosen truthy parts (by omega) arrived
  rw [one, two] at failed
  exact failed

/-- Ports that a node gets by default suit weights that can be scaled, unless there is one weight only.
Then the node never fails because there are more weights than ports, or fewer; with one weight it fails
for that whenever something arrives. -/
theorem default_ports_suit {scaled : List α} (accepted : normalised ws = .ok scaled)
    (built : j.node.Defaults ws) (s : Site σ α) :
    j.node.outputs.length = Nat.max 2 ws.length ∧
    (ws.length ≠ 1 → ∀ incoming f t, j.perform incoming s = .error f t → ¬ j.node.Misfit f) ∧
    (ws.length = 1 → ∀ incoming, incoming ≠ [] → j.perform incoming s =
      .error (.node j.node.id "1 weights configured for 2 output paths") s) := by
  have some_weights : ws ≠ [] := by
    rintro rfl
    cases accepted
  have pos : 0 < ws.length := List.length_pos_iff.2 some_weights
  refine ⟨?_, fun several incoming f t failed => ?_, fun single incoming arrived => ?_⟩
  · obtain ⟨_, _, _, _, _, paths⟩ := built.counts
    exact paths
  · exact built.perform_several (by omega) failed
  · exact built.perform_single single arrived s

end

namespace Fork

/-- The fields of a branch with weights, as files declare it. -/
def declared (weights : List Float) : Fields Float :=
  .ofTexts [("id", .text "fork"), ("type", .text "branch"),
    ("data", .object (Fields.ofTexts [("weights", .list (weights.map .real))]))]

/-- A branch that is read gets its ports by default. -/
theorem exists_defaults {weights : List Float}
    (reads : (Node.read (.object (declared weights))).toOption.map Node.kind = some .branch) :
    ∃ n : Node Float, n.Defaults (weights.map .real) := by
  obtain ⟨n, read, kind⟩ := except_toOption_map_eq_some.1 reads
  exact ⟨n, .read read (.inl kind) rfl rfl rfl⟩

theorem accepts {weights : List (Value Float)} (all : (normalised weights).isOk = true) :
    ∃ scaled, normalised weights = .ok scaled := by
  cases given : normalised weights with
  | ok scaled => exact ⟨scaled, rfl⟩
  | error f =>
    rw [given] at all
    cases all

end Fork

open Fork in
/-- Three weights have three ports to go with. -/
theorem default_ports_suit_fork : ∃ n scaled, n.Defaults ([3.0, 2.0, 5.0].map .real) ∧
    normalised (([3.0, 2.0, 5.0] : List Float).map .real) = .ok scaled ∧ n.outputs.length = 3 ∧
    ∀ (s : Site Random.Stream Float) incoming f t,
      Job.perform ⟨n, [], .int 10⟩ incoming s = .error f t → ¬ n.Misfit f := by
  obtain ⟨n, built⟩ : ∃ n : Node Float, n.Defaults ([3.0, 2.0, 5.0].map .real) := exists_defaults rfl
  obtain ⟨scaled, accepted⟩ : ∃ scaled, normalised (([3.0, 2.0, 5.0] : List Float).map .real) =
      .ok scaled := accepts (by decide +kernel)
  have suits (s : Site Random.Stream Float) :=
    default_ports_suit accepted (j := ⟨n, [], .int 10⟩) built s
  obtain ⟨three, _⟩ := suits ⟨{ startOffset := ⟨0.0, 0.0⟩ }, .ofSeed 7⟩
  exact ⟨n, scaled, built, accepted, three, fun s => (suits s).2.1 (by decide)⟩

open Fork in
/-- A single weight can be scaled, and yet the branch that has it by default fails over it. -/
theorem default_ports_one : ∃ n scaled, n.Defaults ([7.0].map .real) ∧
    normalised (([7.0] : List Float).map .real) = .ok scaled ∧
    ∀ s : Site Random.Stream Float, ∃ f t,
      Job.perform ⟨n, [], .int 10⟩ [Fragment.empty] s = .error f t ∧ n.Misfit f := by
  obtain ⟨n, built⟩ : ∃ n : Node Float, n.Defaults ([7.0].map .real) := exists_defaults rfl
  obtain ⟨scaled, accepted⟩ : ∃ scaled, normalised (([7.0] : List Float).map .real) =
      .ok scaled := accepts (by decide +kernel)
  refine ⟨n, scaled, built, accepted, fun s => ⟨_, s, ?_, 1, 2, rfl⟩⟩
  exact Node.Defaults.perform_single (j := ⟨n, [], .int 10⟩) built rfl (List.cons_ne_nil _ _) s

end Dungeon
