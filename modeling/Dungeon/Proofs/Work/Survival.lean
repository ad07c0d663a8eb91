import Dungeon.Proofs.Failing
import Dungeon.Proofs.Table
import Dungeon.Work.Node

/-!
# Which ports a fragment leaves through

Most nodes send a fragment through every output port, and outputs and content send none. A selection
and a branch that chooses pick one port with the first number of the node's stream, and a condition
picks the port named by its comparison. `Node.Passes` says so without reference to the work of the
nodes, and whatever work succeeds passes its fragments on in this way.
-/

namespace Dungeon

variable {σ α β γ : Type}

section
variable {ε τ : Type}

theorem bind_eq_ok {x : EStateM ε τ β} {f : β → EStateM ε τ γ} {s t : τ} {v : γ} :
    (x >>= f) s = .ok v t ↔ ∃ a s', x s = .ok a s' ∧ f a s' = .ok v t := by
  show EStateM.bind x f s = .ok v t ↔ _
  unfold EStateM.bind
  cases x s with
  | error e s' => simp
  | ok a s' =>
    refine ⟨fun done => ⟨a, s', rfl, done⟩, ?_⟩
    rintro ⟨_, _, same, done⟩
    cases same
    exact done

theorem pure_eq_ok {a v : β} {s t : τ} :
    (pure a : EStateM ε τ β) s = .ok v t ↔ a = v ∧ s = t := by
  show EStateM.Result.ok a s = .ok v t ↔ _
  simp

/-- Whatever comes out when it succeeds has the property. -/
def Yields (work : EStateM ε τ β) (P : β → Prop) : Prop := ∀ s v t, work s = .ok v t → P v

namespace Yields

theorem pure {P : β → Prop} {v : β} (h : P v) : Yields (pure v : EStateM ε τ β) P := by
  intro s w t done
  obtain ⟨rfl, rfl⟩ := pure_eq_ok.1 done
  exact h

theorem bind {P : γ → Prop} {x : EStateM ε τ β} {f : β → EStateM ε τ γ}
    (h : ∀ a, Yields (f a) P) : Yields (x >>= f) P := by
  intro s v t done
  obtain ⟨a, s', _, done⟩ := bind_eq_ok.1 done
  exact h a s' v t done

theorem after {P : β → Prop} {Q : γ → Prop} {x : EStateM ε τ β} {f : β → EStateM ε τ γ}
    (first : Yields x P) (second : ∀ a, P a → Yields (f a) Q) : Yields (x >>= f) Q := by
  intro s v t done
  obtain ⟨a, s', given, done⟩ := bind_eq_ok.1 done
  exact second a (first s a s' given) s' v t done

theorem ite {P : β → Prop} {c : Prop} [Decidable c] {x y : EStateM ε τ β}
    (hx : Yields x P) (hy : Yields y P) : Yields (if c then x else y) P := by
  split
  · exact hx
  · exact hy

theorem fail {P : β → Prop} (j : Job α) (reason : String) :
    Yields (j.fail reason : Work σ α β) P := by
  intro s v t done
  cases done

theorem failOver {P : β → Prop} (j : Job α) (vs : List (Value α)) (reason : String) :
    Yields (j.failOver vs reason : Work σ α β) P := by
  intro s v t done
  cases done

end Yields

end

namespace Work

theorem lift_eq_ok {x : Except Fault β} {v : β} {s t : Site σ α} :
    (lift x : Work σ α β) s = .ok v t ↔ x = .ok v ∧ s = t := by
  cases x with
  | ok a => simpa [lift] using pure_eq_ok
  | error e =>
    show EStateM.Result.error e s = .ok v t ↔ _
    simp

theorem draw_eq_ok {d : Draw σ β} {v : β} {s t : Site σ α} :
    draw d s = .ok v t ↔ ∃ stream, d s.stream = .ok v stream ∧ t = { s with stream } := by
  unfold draw
  cases d s.stream with
  | error e stream => simp
  | ok a stream =>
    constructor
    · rintro ⟨⟩
      exact ⟨stream, rfl, rfl⟩
    · rintro ⟨_, ⟨⟩, rfl⟩
      rfl

end Work

/-- The weighted choice among the output ports, made with the first number of the stream, falls on
this port. -/
def Node.Picks [Scalar α] [Source σ α] (n : Node α) (weights : Value α) (stream : σ)
    (port : String) : Prop :=
  ∃ given scaled i rest, weights.parts = .ok given ∧ normalised given = .ok scaled ∧
    Draw.weightedIndex scaled stream = .ok i rest ∧ n.outputs[i]?.map Port.id = some port

/-- A node that runs sends a fragment through this output port. -/
def Node.Passes [Scalar α] [Source σ α] (n : Node α) (parameters : Bindings α) (stream : σ)
    (port : String) : Prop :=
  match n.data with
  | .start _ | .room _ | .roomChain _ | .merge _ | .sequence _ | .distribution _ => True
  | .branch d => d.probabilistic.truthy = true → n.Picks d.weights stream port
  | .randomSelect d =>
    n.Picks (if d.weights.truthy then d.weights else .tuple (n.outputs.map fun _ => .real 1.0))
      stream port
  | .condition d =>
    ∃ name actual result, d.parameter.key = .ok name ∧ parameters.find? name = some actual ∧
      Job.holds d.operator actual d.value = .ok result ∧
      port = if result then "true" else "false"
  | .output _ | .spawnPoint _ | .lootDrop _ | .encounter _ | .prop _ => False

variable [Scalar α] [Source σ α]

namespace Job

open Work

/-- The same fragment leaves every port. -/
def Spreads (j : Job α) (out : Outcome α) : Prop := ∃ f, out = j.everywhere f

theorem start_spreads (j : Job α) (d : StartData α) :
    Yields (j.start d : Work σ α (Outcome α)) j.Spreads := by
  have placed (area : SpawnArea) (offset : Point α) :
      Yields (do
        Work.write fun draft => draft.setPlayerStart area offset
        Pure.pure (j.everywhere Fragment.empty) : Work σ α (Outcome α)) j.Spreads :=
    .bind fun _ => .pure ⟨_, rfl⟩
  unfold start
  dsimp only
  split
  · exact .bind fun _ => .bind fun _ => .bind fun _ => placed _ _
  · exact .bind fun _ => placed _ _

theorem room_spreads (j : Job α) (d : RoomData α) (incoming : List (Fragment α)) :
    Yields (j.room d incoming : Work σ α (Outcome α)) j.Spreads :=
  .bind fun _ => .bind fun _ => .bind fun _ => .bind fun _ => .bind fun _ => .pure ⟨_, rfl⟩

theorem roomChain_spreads (j : Job α) (d : RoomChainData α) (incoming : List (Fragment α)) :
    Yields (j.roomChain d incoming : Work σ α (Outcome α)) j.Spreads := by
  refine .bind fun _ => .bind fun _ => .bind fun _ => ?_
  split
  · exact .pure ⟨_, rfl⟩
  · exact .bind fun _ => .bind fun _ => .bind fun _ => .bind fun _ => .pure ⟨_, rfl⟩

omit [Source σ α] in
theorem merge_spreads (j : Job α) (incoming : List (Fragment α)) :
    Yields (j.merge incoming : Work σ α (Outcome α)) j.Spreads :=
  .bind fun _ => .pure ⟨_, rfl⟩

omit [Source σ α] in
theorem sequence_spreads (j : Job α) (incoming : List (Fragment α)) :
    Yields (j.sequence incoming : Work σ α (Outcome α)) j.Spreads :=
  .bind fun _ => .pure ⟨_, rfl⟩

theorem distribution_spreads (j : Job α) (d : DistributionData α) (incoming : List (Fragment α)) :
    Yields (j.distribution d incoming : Work σ α (Outcome α)) j.Spreads := by
  refine .bind fun _ => .bind fun _ => .ite ?_ ?_
  · exact .bind fun _ => .bind fun _ => .bind fun _ => .bind fun _ => .pure ⟨_, rfl⟩
  · exact .bind fun _ => .bind fun _ => .bind fun _ => .pure ⟨_, rfl⟩

/-- Nothing leaves. -/
def Keeps (out : Outcome α) : Prop := out = Table.empty

omit [Source σ α] in
theorem output_keeps (j : Job α) (d : OutputData α) (incoming : List (Fragment α)) :
    Yields (j.output d incoming : Work σ α (Outcome α)) Keeps :=
  .bind fun _ => .bind fun _ => .bind fun _ => .bind fun _ => .pure rfl

theorem spawnPoint_keeps (j : Job α) (d : SpawnPointData α) (incoming : List (Fragment α)) :
    Yields (j.spawnPoint d incoming : Work σ α (Outcome α)) Keeps := by
  refine .bind fun _ => .bind fun _ => .bind fun _ => .ite (.bind fun _ => ?_) ?_
  all_goals
    refine .bind fun _ => .ite ?_ ?_
    · exact .bind fun _ => .bind fun _ => .bind fun _ => .pure rfl
    · exact .bind fun _ => .bind fun _ => .bind fun _ => .pure rfl

theorem lootDrop_keeps (j : Job α) (d : LootDropData α) (incoming : List (Fragment α)) :
    Yields (j.lootDrop d incoming : Work σ α (Outcome α)) Keeps := by
  refine .bind fun _ => .bind fun _ => .bind fun _ => .ite (.bind fun _ => ?_) (.bind fun _ => ?_)
  all_goals
    refine .ite (.bind fun _ => ?_) ?_
    all_goals
      refine .bind fun _ => .ite ?_ (.pure rfl)
      exact .bind fun _ => .bind fun _ => .pure rfl

theorem encounter_keeps (j : Job α) (d : EncounterData α) (incoming : List (Fragment α)) :
    Yields (j.encounter d incoming : Work σ α (Outcome α)) Keeps := by
  refine .bind fun _ => .bind fun _ => .bind fun _ => ?_
  split
  · exact .failOver j _ _
  · exact .bind fun _ => .bind fun _ => .pure rfl

theorem prop_keeps (j : Job α) (d : PropData α) (incoming : List (Fragment α)) :
    Yields (j.prop d incoming : Work σ α (Outcome α)) Keeps :=
  .bind fun _ => .bind fun _ => .bind fun _ => .bind fun _ => .pure rfl

omit [Source σ α] in
/-- Joining what arrived draws and writes nothing. -/
theorem site_of_single {j : Job α} {incoming : List (Fragment α)} {s t : Site σ α} {f : Fragment α}
    (h : j.single incoming s = .ok f t) : t = s := by
  unfold single at h
  split at h
  · cases h
  · exact (lift_eq_ok.1 h).2.symm

omit [Scalar α] [Source σ α] in
theorem blame_eq_ok {j : Job α} {work : Work σ α β} {s t : Site σ α} {v : β} :
    j.blame work s = .ok v t ↔ work s = .ok v t := by
  unfold blame
  cases work s <;> simp

omit [Source σ α] in
/-- Weights are scaled without a draw, and there are as many as output ports. -/
theorem scaled_of_pathWeights {j : Job α} {weights : Value α} {s t : Site σ α} {scaled : List α}
    (h : j.pathWeights weights s = .ok scaled t) :
    t = s ∧ ∃ given, weights.parts = .ok given ∧ normalised given = .ok scaled ∧
      given.length = j.node.outputs.length := by
  unfold pathWeights at h
  obtain ⟨count, s', measured, h⟩ := bind_eq_ok.1 h
  obtain ⟨counted, rfl⟩ := lift_eq_ok.1 measured
  dsimp only at h
  split at h
  · cases h
  next same =>
    obtain ⟨found, rfl⟩ := lift_eq_ok.1 (blame_eq_ok.1 h)
    cases parts : weights.parts? with
    | none => simp [Value.length, parts] at counted
    | some given =>
      simp only [Value.length, parts, Except.ok.injEq] at counted
      have parts' : weights.parts = .ok given := by simp [Value.parts, parts]
      rw [parts'] at found
      exact ⟨rfl, given, parts', found, counted.trans (by simpa using same)⟩

omit [Scalar α] [Source σ α] in
theorem find?_ports {j : Job α} {port : String} (f : String → Option (Fragment α))
    (there : port ∈ j.node.outputs.map Port.id) :
    ((Table.ofList (j.node.outputs.map fun p => (p.id, f p.id))).find? port).join = f port := by
  have keys : (j.node.outputs.map fun p => (p.id, f p.id)).map Prod.fst =
      j.node.outputs.map Port.id := by
    simp [Function.comp_def]
  obtain ⟨v, found⟩ := Table.find?_ofList_isSome (keys ▸ there)
  obtain ⟨q, _, entry⟩ := List.mem_map.1 (Table.mem_of_find?_ofList found)
  cases entry
  rw [found]
  rfl

omit [Scalar α] [Source σ α] in
theorem passes_everywhere {j : Job α} {port : String} (f : Fragment α)
    (there : port ∈ j.node.outputs.map Port.id) :
    ((j.everywhere f).find? port).join = some f :=
  find?_ports (fun _ => some f) there

omit [Scalar α] [Source σ α] in
theorem passes_only {j : Job α} {port : String} (f : Fragment α) (chosen : String)
    (there : port ∈ j.node.outputs.map Port.id) :
    ((j.only f chosen).find? port).join = if port = chosen then some f else none :=
  find?_ports (fun id => if id = chosen then some f else none) there

end Job

/-- The index that is drawn is the index of a weight. -/
theorem Draw.weightedIndex_lt {weights : List α} {s t : σ} {i : Nat}
    (h : weightedIndex weights s = .ok i t) : i < weights.length := by
  cases weights with
  | nil => cases h
  | cons w rest =>
    have within (total key : α) : indexAt (w :: rest) total key < (w :: rest).length := by
      have bound : indexAt (w :: rest) total key ≤ (w :: rest).length - 1 := Nat.min_le_right _ _
      simp only [List.length_cons] at bound ⊢
      omega
    have drawn (total : α) :
        Yields (do
          let key ← Draw.between 0.0 total
          pure (indexAt (w :: rest) total key) : Draw σ Nat) (· < (w :: rest).length) :=
      .bind fun key => .pure (within total key)
    have yields : Yields (Draw.weightedIndex (w :: rest) : Draw σ Nat) (· < (w :: rest).length) := by
      refine .ite (.bind fun _ => .bind fun total => ?_) (.bind fun total => ?_)
      · exact .ite (.bind fun _ => drawn total) (drawn total)
      · exact .ite (.bind fun _ => drawn total) (drawn total)
    exact yields s i t h

/-- Scaling keeps the number of weights. -/
theorem length_normalised {weights : List (Value α)} {scaled : List α}
    (h : normalised weights = .ok scaled) : scaled.length = weights.length := by
  unfold normalised at h
  split at h
  · cases h
  · obtain ⟨improper, _, h⟩ := except_bind_eq_ok.1 h
    split at h
    · cases h
    · obtain ⟨reals, mapped, h⟩ := except_bind_eq_ok.1 h
      obtain ⟨total, _, h⟩ := except_bind_eq_ok.1 h
      split at h
      · cases h
      · cases h
        rw [List.length_map, length_mapM mapped]

namespace Job

open Work

omit [Scalar α] [Source σ α] in
theorem portId_eq {j : Job α} {i : Nat} (h : i < j.node.outputs.length) :
    j.node.outputs[i]?.map Port.id = some (j.portId i) := by
  simp [portId, h]

/-- Once the weights are scaled and an index is drawn, the port with this index is the one picked. -/
theorem picks_iff {j : Job α} {weights : Value α} {s t : Site σ α} {scaled : List α} {i : Nat}
    {stream : σ} (scaling : j.pathWeights weights s = .ok scaled t)
    (drawn : Draw.weightedIndex scaled s.stream = .ok i stream) {port : String} :
    j.node.Picks weights s.stream port ↔ port = j.portId i := by
  obtain ⟨_, given, parts, normal, ports⟩ := scaled_of_pathWeights scaling
  have within : i < j.node.outputs.length := by
    rw [← ports, ← length_normalised normal]
    exact Draw.weightedIndex_lt drawn
  constructor
  · rintro ⟨given', scaled', i', rest, parts', normal', drawn', picked⟩
    cases parts.symm.trans parts'
    cases normal.symm.trans normal'
    cases drawn.symm.trans drawn'
    rw [portId_eq within] at picked
    exact (Option.some.inj picked).symm
  · rintro rfl
    exact ⟨given, scaled, i, stream, parts, normal, drawn, portId_eq within⟩

variable {j : Job α} {incoming : List (Fragment α)} {s t : Site σ α} {out : Outcome α}
  {port : String}

theorem passes_randomSelect {d : RandomSelectData α}
    (h : j.randomSelect d incoming s = .ok out t) (there : port ∈ j.node.outputs.map Port.id) :
    (out.find? port).join.isSome ↔
      j.node.Picks (if d.weights.truthy then d.weights
        else .tuple (j.node.outputs.map fun _ => .real 1.0)) s.stream port := by
  obtain ⟨f, s₁, single, h⟩ := bind_eq_ok.1 h
  cases site_of_single single
  obtain ⟨scaled, s₂, scaling, h⟩ := bind_eq_ok.1 h
  cases (scaled_of_pathWeights scaling).1
  obtain ⟨i, s₃, drawn, h⟩ := bind_eq_ok.1 h
  obtain ⟨stream, drawn, _⟩ := draw_eq_ok.1 drawn
  obtain ⟨rfl, _⟩ := pure_eq_ok.1 h
  rw [picks_iff scaling drawn, passes_only _ _ there]
  split
  next same => simp [same]
  next other => simp [other]

omit [Source σ α] in
/-- The paths of a branch lead out of all its ports. -/
theorem keys_paths (f : Fragment α) {weights : List α}
    (same : weights.length = j.node.outputs.length) :
    (j.paths f weights).map Prod.fst = j.node.outputs.map Port.id := by
  have ports : (j.paths f weights).map Prod.fst =
      (((j.node.outputs.zip weights).zipIdx.map Prod.fst).map Prod.fst).map Port.id := by
    rw [List.map_map, List.map_map, paths, List.map_map]
    rfl
  rw [ports, List.zipIdx_map_fst, List.map_fst_zip (by omega)]

theorem passes_branch {d : BranchData α} (h : j.branch d incoming s = .ok out t)
    (there : port ∈ j.node.outputs.map Port.id) :
    (out.find? port).join.isSome ↔
      (d.probabilistic.truthy = true → j.node.Picks d.weights s.stream port) := by
  obtain ⟨f, s₁, single, h₁⟩ := bind_eq_ok.1 h
  cases site_of_single single
  obtain ⟨scaled, s₂, scaling, h₂⟩ := bind_eq_ok.1 h₁
  obtain ⟨same_site, given, _, normal, ports⟩ := scaled_of_pathWeights scaling
  have same : scaled.length = j.node.outputs.length := (length_normalised normal).trans ports
  obtain ⟨path, found⟩ := Table.find?_ofList_isSome (keys_paths f same ▸ there)
  by_cases choosing : d.probabilistic.truthy = true
  · simp only [choosing, if_true] at h₂
    obtain ⟨i, s₃, drawn, h₃⟩ := bind_eq_ok.1 h₂
    obtain ⟨stream, drawn, _⟩ := draw_eq_ok.1 drawn
    obtain ⟨rfl, _⟩ := pure_eq_ok.1 h₃
    have entry := Table.lookup_map port
      (fun id f => if id = j.portId i then some f else none)
      (Table.ofList (j.paths f scaled)).entries
    have found' : Table.lookup port (Table.ofList (j.paths f scaled)).entries = some path := found
    rw [found'] at entry
    rw [picks_iff scaling (same_site ▸ drawn), Table.find?, entry]
    by_cases chosen : port = j.portId i <;> simp [chosen, choosing]
  · simp only [choosing] at h₂
    obtain ⟨rfl, _⟩ := pure_eq_ok.1 h₂
    rw [Table.find?_map, found]
    simp [choosing]

omit [Source σ α] in
theorem passes_condition {d : ConditionData α} (h : j.condition d incoming s = .ok out t)
    (there : port ∈ j.node.outputs.map Port.id) :
    (out.find? port).join.isSome ↔
      ∃ name actual result, d.parameter.key = .ok name ∧ j.parameters.find? name = some actual ∧
        holds d.operator actual d.value = .ok result ∧
        port = if result then "true" else "false" := by
  obtain ⟨f, s₁, single, h₁⟩ := bind_eq_ok.1 h
  obtain ⟨name, s₂, keyed, h₂⟩ := bind_eq_ok.1 h₁
  obtain ⟨named, _⟩ := lift_eq_ok.1 keyed
  cases bound : j.parameters.find? name with
  | none =>
    simp only [bound] at h₂
    cases h₂
  | some actual =>
    cases compared : holds d.operator actual d.value with
    | error e =>
      simp only [bound, compared] at h₂
      split at h₂ <;> cases h₂
    | ok result =>
      simp only [bound, compared] at h₂
      obtain ⟨rfl, _⟩ := pure_eq_ok.1 h₂
      rw [passes_only _ _ there]
      have chosen : (∃ name actual result, d.parameter.key = .ok name ∧
          j.parameters.find? name = some actual ∧ holds d.operator actual d.value = .ok result ∧
          port = if result then "true" else "false") ↔
            port = if result then "true" else "false" := by
        constructor
        · rintro ⟨name', actual', result', named', bound', compared', same⟩
          cases named.symm.trans named'
          cases bound.symm.trans bound'
          cases compared.symm.trans compared'
          exact same
        · exact fun same => ⟨name, actual, result, named, bound, compared, same⟩
      rw [chosen]
      split <;> simp

/-- Whatever work succeeds, its fragment leaves through the ports that the node passes it on to. -/
theorem passes_perform (h : j.perform incoming s = .ok out t)
    (there : port ∈ j.node.outputs.map Port.id) :
    (out.find? port).join.isSome ↔ j.node.Passes j.parameters s.stream port := by
  have spread (spreads : j.Spreads out) : (out.find? port).join.isSome ↔ True := by
    obtain ⟨f, rfl⟩ := spreads
    rw [passes_everywhere f there]
    simp
  have kept (keeps : Keeps out) : (out.find? port).join.isSome ↔ False := by
    cases keeps
    simp
  unfold perform at h
  unfold Node.Passes
  cases data : j.node.data with
  | start d => rw [data] at h; exact spread (j.start_spreads d s out t h)
  | output d => rw [data] at h; exact kept (j.output_keeps d incoming s out t h)
  | room d => rw [data] at h; exact spread (j.room_spreads d incoming s out t h)
  | roomChain d => rw [data] at h; exact spread (j.roomChain_spreads d incoming s out t h)
  | branch d => rw [data] at h; exact passes_branch h there
  | merge d => rw [data] at h; exact spread (j.merge_spreads incoming s out t h)
  | spawnPoint d => rw [data] at h; exact kept (j.spawnPoint_keeps d incoming s out t h)
  | lootDrop d => rw [data] at h; exact kept (j.lootDrop_keeps d incoming s out t h)
  | encounter d => rw [data] at h; exact kept (j.encounter_keeps d incoming s out t h)
  | prop d => rw [data] at h; exact kept (j.prop_keeps d incoming s out t h)
  | randomSelect d => rw [data] at h; exact passes_randomSelect h there
  | sequence d => rw [data] at h; exact spread (j.sequence_spreads incoming s out t h)
  | condition d => rw [data] at h; exact passes_condition h there
  | distribution d => rw [data] at h; exact spread (j.distribution_spreads d incoming s out t h)

end Job

end Dungeon
