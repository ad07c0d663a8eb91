import Dungeon.Proofs.Run.Growth
import Dungeon.Proofs.Run.Liveness

/-!
# What a selection keeps

A branch that chooses, a selection and a condition keep one path each. The first two choose among the
ports that they have. A condition chooses by name, whatever its ports are called: if its comparison holds
it keeps the port `true`, and if not the port `false`. So it keeps exactly one path when it has the port,
and none when it has not.
-/

namespace Dungeon

variable {σ α : Type} [Scalar α]

/-- The node is to keep one of its paths. -/
def Node.Chooses (n : Node α) : Prop :=
  match n.data with
  | .branch d => d.probabilistic.truthy = true
  | .randomSelect _ | .condition _ => True
  | _ => False

/-- The comparison of the condition has this result. -/
def ConditionData.Finds (d : ConditionData α) (parameters : Bindings α) (result : Bool) : Prop :=
  ∃ name actual, d.parameter.key = .ok name ∧ parameters.find? name = some actual ∧
    Job.holds d.operator actual d.value = .ok result

theorem ConditionData.Finds.eq {d : ConditionData α} {parameters : Bindings α} {a b : Bool}
    (ha : d.Finds parameters a) (hb : d.Finds parameters b) : a = b := by
  obtain ⟨name, actual, named, bound, compared⟩ := ha
  obtain ⟨name', actual', named', bound', compared'⟩ := hb
  cases named.symm.trans named'
  cases bound.symm.trans bound'
  exact Except.ok.inj (compared.symm.trans compared')

/-- The node is a condition whose comparison has a result, and it has no port of that name. -/
def Node.Lacks (n : Node α) (parameters : Bindings α) : Prop :=
  match n.data with
  | .condition d => ∃ result, d.Finds parameters result ∧
      (if result then "true" else "false") ∉ n.outputs.map Port.id
  | _ => False

variable [Source σ α]

namespace Job

open Work

variable {j : Job α} {incoming : List (Fragment α)} {s t : Site σ α} {out : Outcome α}

/-- Work that chose by weights has picked one port of the node. -/
theorem exists_picks {weights : Value α} {scaled : List α} {i : Nat} {s' : Site σ α} {stream : σ}
    (scaling : j.pathWeights weights s = .ok scaled s')
    (drawn : Draw.weightedIndex scaled s.stream = .ok i stream) :
    ∃ chosen ∈ j.node.outputs.map Port.id,
      ∀ port, j.node.Picks weights s.stream port ↔ port = chosen := by
  obtain ⟨_, given, _, normal, ports⟩ := scaled_of_pathWeights scaling
  have within : i < j.node.outputs.length := by
    rw [← ports, ← length_normalised normal]
    exact Draw.weightedIndex_lt drawn
  refine ⟨j.portId i, ?_, fun port => picks_iff scaling drawn⟩
  obtain ⟨p, found, named⟩ := Option.map_eq_some_iff.1 (portId_eq within)
  exact named ▸ List.mem_map_of_mem (List.mem_of_getElem? found)

theorem branch_picks {d : BranchData α} (choosing : d.probabilistic.truthy = true)
    (h : j.branch d incoming s = .ok out t) :
    ∃ chosen ∈ j.node.outputs.map Port.id,
      ∀ port, j.node.Picks d.weights s.stream port ↔ port = chosen := by
  obtain ⟨f, s₁, single, h⟩ := bind_eq_ok.1 h
  cases site_of_single single
  obtain ⟨scaled, s₂, scaling, h⟩ := bind_eq_ok.1 h
  cases (scaled_of_pathWeights scaling).1
  simp only [choosing, if_true] at h
  obtain ⟨i, s₃, drawn, h⟩ := bind_eq_ok.1 h
  obtain ⟨stream, drawn, _⟩ := draw_eq_ok.1 drawn
  exact exists_picks scaling drawn

theorem randomSelect_picks {d : RandomSelectData α} (h : j.randomSelect d incoming s = .ok out t) :
    ∃ chosen ∈ j.node.outputs.map Port.id, ∀ port,
      j.node.Picks (if d.weights.truthy then d.weights
        else .tuple (j.node.outputs.map fun _ => .real 1.0)) s.stream port ↔ port = chosen := by
  obtain ⟨f, s₁, single, h⟩ := bind_eq_ok.1 h
  cases site_of_single single
  obtain ⟨scaled, s₂, scaling, h⟩ := bind_eq_ok.1 h
  cases (scaled_of_pathWeights scaling).1
  obtain ⟨i, s₃, drawn, h⟩ := bind_eq_ok.1 h
  obtain ⟨stream, drawn, _⟩ := draw_eq_ok.1 drawn
  exact exists_picks scaling drawn

omit [Source σ α] in
/-- A condition that has worked has compared its parameter. -/
theorem condition_finds {d : ConditionData α} (h : j.condition d incoming s = .ok out t) :
    ∃ result, d.Finds j.parameters result := by
  obtain ⟨f, s₁, single, h⟩ := bind_eq_ok.1 h
  obtain ⟨name, s₂, keyed, h⟩ := bind_eq_ok.1 h
  obtain ⟨named, _⟩ := lift_eq_ok.1 keyed
  cases bound : j.parameters.find? name with
  | none =>
    simp only [bound] at h
    cases h
  | some actual =>
    cases compared : holds d.operator actual d.value with
    | error e =>
      simp only [bound, compared] at h
      split at h <;> cases h
    | ok result => exact ⟨result, name, actual, named, bound, compared⟩

/-- Work of a node that chooses names one path to pass its fragment on to. It is one of the node's own,
unless the node lacks it. -/
theorem perform_chooses (chooses : j.node.Chooses) (h : j.perform incoming s = .ok out t) :
    ∃ chosen, (∀ port, j.node.Passes j.parameters s.stream port ↔ port = chosen) ∧
      (j.node.Lacks j.parameters ↔ chosen ∉ j.node.outputs.map Port.id) := by
  unfold perform at h
  unfold Node.Chooses at chooses
  unfold Node.Passes Node.Lacks
  cases data : j.node.data with
  | branch d =>
    rw [data] at h chooses
    obtain ⟨chosen, own, picks⟩ := branch_picks chooses h
    refine ⟨chosen, fun port => ?_, by simpa using own⟩
    exact (forall_prop_of_true chooses).trans (picks port)
  | randomSelect d =>
    rw [data] at h
    obtain ⟨chosen, own, picks⟩ := randomSelect_picks h
    exact ⟨chosen, picks, by simpa using own⟩
  | condition d =>
    rw [data] at h
    obtain ⟨result, finds⟩ := condition_finds h
    refine ⟨if result then "true" else "false", fun port => ⟨?_, ?_⟩, ?_, fun lacking => ?_⟩
    · rintro ⟨name, actual, result', named, bound, compared, same⟩
      cases finds.eq ⟨name, actual, named, bound, compared⟩
      exact same
    · rintro same
      obtain ⟨name, actual, named, bound, compared⟩ := finds
      exact ⟨name, actual, result, named, bound, compared, same⟩
    · rintro ⟨result', finds', lacking⟩
      cases finds.eq finds'
      exact lacking
    · exact ⟨result, finds, lacking⟩
  | _ =>
    rw [data] at chooses
    exact chooses.elim

end Job

namespace Run

/-- In a run of an accepted graph each node that chooses and has worked has kept one of its ports, with
nothing leaving the others, or it is a condition that lacks the port it asks for, and nothing leaves it. -/
theorem selection_exact {g : Graph α} {found : Graph.Report} (valid : g.ensureValid = .ok found)
    (retries : Value α) (parameters : Bindings α) (stream : String → σ) (host : Host) :
    ∃ plan, Plan.ofValid g retries = .ok plan ∧
      ∀ past r, Reaches (⟨plan, parameters, stream, host⟩ : Input σ α) past r → ∀ x ∈ past,
        ∀ n, g.node? x.id = some n → n.Chooses →
          (¬ n.Lacks parameters →
            ∃! port, port ∈ n.outputs.map Port.id ∧ (x.outcome.find? port).join.isSome) ∧
          (n.Lacks parameters →
            ∀ port ∈ n.outputs.map Port.id, (x.outcome.find? port).join = none) := by
  have sound := Graph.sound_of_ensureValid valid
  refine ⟨_, Graph.Sound.plan_of_ensureValid retries valid, ?_⟩
  intro past r reached x member n node chooses
  obtain ⟨_, _, r₀, m, site, _, _, _, node', _, worked⟩ :=
    reached.recorded (sound.closed retries) member
  cases node.symm.trans node'
  obtain ⟨chosen, passes, lacks⟩ := Job.perform_chooses chooses worked
  have kept {port : String} (there : port ∈ n.outputs.map Port.id) :
      (x.outcome.find? port).join.isSome ↔ port = chosen :=
    (Job.passes_perform worked there).trans (passes port)
  constructor
  · intro has
    have own : chosen ∈ n.outputs.map Port.id := Classical.not_not.1 fun other => has (lacks.2 other)
    exact ⟨chosen, ⟨own, (kept own).2 rfl⟩, fun port ⟨there, leaves⟩ => (kept there).1 leaves⟩
  · intro lacking port there
    have other : port ≠ chosen := fun same => lacks.1 lacking (same ▸ there)
    exact Option.not_isSome_iff_eq_none.1 fun leaves => other ((kept there).1 leaves)

/-- A node that is reported as done has worked on the way to the report. -/
theorem exists_execution {input : Input σ α} (closed : input.plan.Closed) {report : RunReport α}
    (ran : execute input = .ok report) {id : String} (done : report.states.find? id = some .done) :
    ∃ past r x, Reaches input past r ∧ x ∈ past ∧ x.id = id := by
  obtain ⟨past, r, reached, _, rfl⟩ := reaches_of_execute closed ran
  obtain ⟨log, books⟩ := reached.ledger closed
  rw [toReport_states, books.done] at done
  obtain ⟨x, member, same⟩ := List.mem_map.1 done
  exact ⟨past, r, x, reached, member, same⟩

/-- The gate sends its fragment one way. -/
theorem selection_exact_gate : ∃ past r x, Reaches Gate.input past r ∧ x ∈ past ∧ x.id = "gate" ∧
    ∃! port, port ∈ ["true", "false"] ∧ (x.outcome.find? port).join.isSome := by
  obtain ⟨found, valid⟩ : ∃ found, Gate.graph.ensureValid = .ok found := ⟨_, rfl⟩
  obtain ⟨report, ran, done⟩ : ∃ report, execute Gate.input = .ok report ∧
      report.states.find? "gate" = some .done := ⟨_, rfl, rfl⟩
  have closed := (Graph.sound_of_ensureValid valid).closed Gate.input.plan.retries
  obtain ⟨past, r, x, reached, member, same⟩ := exists_execution closed ran done
  obtain ⟨plan, made, keeps⟩ :=
    selection_exact valid Gate.input.plan.retries Gate.input.parameters Gate.input.stream Gate.input.host
  cases made.symm.trans (Graph.Sound.plan_of_ensureValid _ valid)
  obtain ⟨one, _⟩ := keeps past r reached x member Gate.graph.nodes[1] (by rw [same]; rfl) trivial
  refine ⟨past, r, x, reached, member, same, one ?_⟩
  rintro ⟨result, _, lacking⟩
  cases result <;> exact lacking (by decide)

end Run

namespace Hatch

open Run.Gate.graph (node)

/-- A cell with a hatch whose one port is named after neither answer. -/
def graph : Graph Float where
  nodes := [
    node "start" (.start {}) [] ["out"],
    node "cell" (.room { plan := Vault.graph.plan }) ["in"] ["out"],
    node "hatch" (.condition { parameter := .text "open" }) ["in"] ["pass"],
    node "exit" (.output {}) ["in"] []]
  edges := [
    { id := "enter", source := ⟨"start", "out"⟩, target := ⟨"cell", "in"⟩ },
    { id := "climb", source := ⟨"cell", "out"⟩, target := ⟨"hatch", "in"⟩ },
    { id := "leave", source := ⟨"hatch", "pass"⟩, target := ⟨"exit", "in"⟩ }]

def input : Run.Input Random.Stream Float where
  plan := ⟨graph, .int 10⟩
  parameters := [(.text "open", .bool true)]
  stream := nodeStream 7

theorem valid : ∃ found, graph.ensureValid = .ok found := ⟨_, rfl⟩

theorem returns : ∃ report, Run.execute input = .ok report ∧
    report.states.find? "hatch" = some .done ∧ report.states.find? "exit" = some .pruned := by
  have facts : (Run.execute input).toOption.map (fun report =>
      (report.states.find? "hatch", report.states.find? "exit")) =
      some (some .done, some .pruned) := by decide +kernel
  obtain ⟨report, ran, read⟩ := except_toOption_map_eq_some.1 facts
  obtain ⟨hatch, exit⟩ := Prod.mk.inj read
  exact ⟨report, ran, hatch, exit⟩

end Hatch

namespace Run

/-- The hatch is open and works, and yet nothing leaves it: what is below is pruned. -/
theorem selection_hatch :
    (∃ report, execute Hatch.input = .ok report ∧ report.states.find? "exit" = some .pruned) ∧
    ∃ found past r x n, Hatch.graph.ensureValid = .ok found ∧ Reaches Hatch.input past r ∧
      x ∈ past ∧ Hatch.graph.node? x.id = some n ∧ n.Chooses ∧
      ∀ port ∈ n.outputs.map Port.id, (x.outcome.find? port).join = none := by
  obtain ⟨found, valid⟩ := Hatch.valid
  obtain ⟨report, ran, done, below⟩ := Hatch.returns
  have closed := (Graph.sound_of_ensureValid valid).closed Hatch.input.plan.retries
  obtain ⟨past, r, x, reached, member, same⟩ := exists_execution closed ran done
  obtain ⟨_, _, r₀, n, site, _, _, _, node, _, worked⟩ := reached.recorded closed member
  have hatch : n = Hatch.graph.nodes[2] := by
    rw [same] at node
    exact (Option.some.inj node).symm
  subst hatch
  refine ⟨⟨report, ran, below⟩, found, past, r, x, _, valid, reached, member, node, trivial, ?_⟩
  intro port there
  refine Option.not_isSome_iff_eq_none.1 fun leaves => ?_
  obtain ⟨_, _, result, _, _, _, named⟩ := (Job.passes_perform worked there).1 leaves
  have pass : port = "pass" := by simpa [Hatch.graph, Gate.graph.node] using there
  cases result <;> exact absurd (pass.symm.trans named) (by decide)

end Run

end Dungeon
