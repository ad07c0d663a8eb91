import Dungeon.Proofs.Run.Trace
import Dungeon.Proofs.Work.Bare

/-!
# Runs in step

Two plans are alike when the same is found in both under every id, whatever the order in which it was
declared. Runs of plans that are alike go on in step: they settle the same edges in the same order
and run the same nodes, and they differ only in the order of the entries in their tables of progress.
-/

namespace Dungeon

variable {σ α β γ : Type}

/-- Both fail in the same way, or both succeed and the results are related. -/
def Agree (R : β → γ → Prop) : Except Fault β → Except Fault γ → Prop
  | .ok a, .ok b => R a b
  | .error f, .error g => f = g
  | _, _ => False

theorem Agree.bind {β' γ' : Type} {R : β → γ → Prop} {S : β' → γ' → Prop} {x : Except Fault β}
    {y : Except Fault γ} {f : β → Except Fault β'} {g : γ → Except Fault γ'} (h : Agree R x y)
    (next : ∀ a b, R a b → Agree S (f a) (g b)) : Agree S (x >>= f) (y >>= g) := by
  cases x with
  | ok a =>
    cases y with
    | ok b => exact next a b h
    | error e => exact h.elim
  | error e =>
    cases y with
    | ok b => exact h.elim
    | error e' => exact h

theorem Agree.cases {R : β → γ → Prop} {x : Except Fault β} {y : Except Fault γ}
    (h : Agree R x y) :
    (∃ f, x = .error f ∧ y = .error f) ∨ ∃ a b, x = .ok a ∧ y = .ok b ∧ R a b := by
  cases x with
  | ok a =>
    cases y with
    | ok b => exact .inr ⟨a, b, rfl, rfl, h⟩
    | error e => exact h.elim
  | error e =>
    cases y with
    | ok b => exact h.elim
    | error e' => exact .inl ⟨e, rfl, congrArg Except.error h.symm⟩

/-- Under every id the plans hold the same, up to what belongs to the editor. -/
structure Plan.Alike (p q : Plan α) : Prop where
  retries : p.retries = q.retries
  distinct : p.graph.nodeIds.Nodup
  nodeIds : p.graph.nodeIds.Perm q.graph.nodeIds
  nodes : ∀ id, (p.graph.node? id).map Node.bare = (q.graph.node? id).map Node.bare
  outgoing : ∀ id, (p.outgoing id).map Edge.bare = (q.outgoing id).map Edge.bare
  inDegree : ∀ id, p.inDegree id = q.inDegree id
  ports : ∀ ref, p.inputIndex? ref = q.inputIndex? ref
  strategies : ∀ id, p.strategy? id = q.strategy? id

/-- The reports say the same of layout, data, warnings and the state of each node. -/
structure RunReport.Same (a b : RunReport α) : Prop where
  layout : a.layout = b.layout
  data : a.data = b.data
  warnings : a.warnings = b.warnings
  states : ∀ id, a.states.find? id = b.states.find? id

namespace Run

/-- Only the order of the entries tells the states apart. -/
structure Alike (r s : Run α) : Prop where
  nodup : r.progress.keys.Nodup
  progress : r.progress.entries.Perm s.progress.entries
  executions : r.executions = s.executions
  pruned : r.pruned = s.pruned
  winners : r.winners = s.winners
  draft : r.draft = s.draft

namespace Alike

variable {r s : Run α} (alike : r.Alike s)
include alike

theorem find? (id : String) : r.progress.find? id = s.progress.find? id :=
  Table.lookup_perm alike.progress alike.nodup id

theorem state? (id : String) : r.state? id = s.state? id := by
  rw [Run.state?, Run.state?, alike.find?]

theorem incoming (id : String) : r.incoming id = s.incoming id := by
  rw [Run.incoming, Run.incoming, alike.find?]

theorem next? : r.next? = s.next? := by
  have ready := (alike.progress.filter fun e => e.2.state = .ready).map Prod.fst
  rw [Run.next?, Run.next?, sortedTexts_eq_of_perm ready]

theorem update (id : String) (f : Progress α → Progress α) :
    (r.update id f).Alike (s.update id f) := by
  unfold Run.update
  rw [← alike.find?]
  cases found : r.progress.find? id with
  | none => exact alike
  | some g =>
    exact { alike with
      nodup := Table.nodup_keys_insert alike.nodup id (f g)
      progress := Table.put_perm alike.progress alike.nodup id (f g) }

theorem setState (id : String) (state : NodeState) : (r.setState id state).Alike (s.setState id state) :=
  alike.update id _

end Alike

/-- The delivery without the label of its edge. -/
def bareDelivery (d : Delivery α) : Delivery α := (d.1.bare, d.2)

variable {p q : Plan α} {r s : Run α}

/-- States that are alike, with the same deliveries to follow. -/
def InStep (a b : Run α × List (Delivery α)) : Prop :=
  a.1.Alike b.1 ∧ a.2.map bareDelivery = b.2.map bareDelivery

theorem prune_alike (plans : p.Alike q) (alike : r.Alike s) (id : String) :
    InStep (r.prune p id) (s.prune q id) := by
  refine ⟨{ alike.setState id .pruned with pruned := congrArg (· ++ [id]) alike.pruned }, ?_⟩
  have bare (p : Plan α) : (p.outgoing id).map (bareDelivery ∘ fun e => (e, none)) =
      ((p.outgoing id).map Edge.bare).map fun e => (e, none) := by
    rw [List.map_map]
    rfl
  simp only [prune, List.map_map, bare, plans.outgoing]

theorem complete_alike (plans : p.Alike q) (alike : r.Alike s) (id : String) :
    InStep (r.complete p id) (s.complete q id) := by
  unfold complete
  rw [← alike.find?]
  cases r.progress.find? id with
  | none => exact ⟨alike, rfl⟩
  | some g =>
    dsimp only
    split
    · split
      · exact prune_alike plans alike id
      · exact ⟨alike.setState id .ready, rfl⟩
    · exact ⟨alike, rfl⟩

theorem fire_alike (plans : p.Alike q) (alike : r.Alike s) (e : Edge α) :
    (r.fire p e).Alike (s.fire q e) := by
  unfold fire
  dsimp only
  rw [plans.strategies, alike.winners]
  exact { alike.setState e.target.node .ready with winners := rfl }

theorem arrive_alike (plans : p.Alike q) (alike : r.Alike s) (e : Edge α) (f : Fragment α) :
    Agree Alike (r.arrive p e f) (s.arrive q e f) := by
  unfold arrive
  rw [plans.ports]
  cases q.inputIndex? e.target with
  | none => rfl
  | some port => exact alike.update e.target.node _

theorem firesEarly_alike (plans : p.Alike q) (id : String) : p.firesEarly id = q.firesEarly id := by
  rw [Plan.firesEarly, Plan.firesEarly, plans.strategies]

theorem settle_alike (plans : p.Alike q) (alike : r.Alike s) (d : Delivery α) :
    Agree InStep (r.settle p d) (s.settle q d) := by
  obtain ⟨e, f⟩ := d
  have counted := alike.update e.target.node fun g => { g with unsettled := g.unsettled - 1 }
  unfold settle
  dsimp only
  rw [counted.state?, firesEarly_alike plans]
  split
  · exact ⟨counted, rfl⟩
  · cases f with
    | none => exact complete_alike plans counted e.target.node
    | some f =>
      refine (arrive_alike plans counted e f).bind fun a b arrived => ?_
      split
      · exact ⟨fire_alike plans arrived e, rfl⟩
      · exact complete_alike plans arrived e.target.node

/-- Settling the same edges in the same order leads to states that are alike, if this is so of what
follows from an edge. -/
theorem settleEach_alike (plans : p.Alike q)
    {cascade cascade' : List (Delivery α) → Run α → Except Fault (Run α)}
    (nested : ∀ {ds es : List (Delivery α)} {r s : Run α}, r.Alike s →
      ds.map bareDelivery = es.map bareDelivery → Agree Alike (cascade ds r) (cascade' es s))
    {ds es : List (Delivery α)} (alike : r.Alike s)
    (same : ds.map bareDelivery = es.map bareDelivery) :
    Agree Alike (settleEach p cascade ds r) (settleEach q cascade' es s) := by
  induction ds generalizing es r s with
  | nil =>
    cases List.map_eq_nil_iff.1 same.symm
    exact alike
  | cons d ds ih =>
    cases es with
    | nil => cases same
    | cons e es =>
      obtain ⟨first, rest⟩ := List.cons.inj same
      -- Labels are not read, so the first delivery is settled as a bare one.
      have unlabelled : s.settle q e = s.settle q d := by
        show s.settle q (bareDelivery e) = s.settle q (bareDelivery d)
        rw [first]
      rw [settleEach, settleEach, unlabelled]
      refine (settle_alike plans alike d).bind ?_
      rintro ⟨a, more⟩ ⟨b, more'⟩ ⟨ahead, follow⟩
      dsimp only
      rw [alike.pruned, ahead.pruned]
      split
      · exact (nested ahead follow).bind fun _ _ settled => ih settled rest
      · exact ih ahead rest

theorem settleAll_alike (plans : p.Alike q) {nesting : Nat} {ds es : List (Delivery α)}
    (alike : r.Alike s) (same : ds.map bareDelivery = es.map bareDelivery) :
    Agree Alike (settleAll p nesting ds r) (settleAll q nesting es s) := by
  induction nesting generalizing ds es r s with
  | zero =>
    rw [settleAll, settleAll]
    exact settleEach_alike plans (fun _ _ => by rfl) alike same
  | succ nesting ih => exact settleEach_alike plans ih alike same

theorem foldl_setState_alike (alike : r.Alike s) (ids : List String) (state : NodeState) :
    (ids.foldl (fun r id => r.setState id state) r).Alike
      (ids.foldl (fun r id => r.setState id state) s) := by
  induction ids generalizing r s with
  | nil => exact alike
  | cons id rest ih => exact ih (alike.setState id state)

theorem roots_alike (plans : p.Alike q) : p.roots = q.roots := by
  rw [Plan.roots, Plan.roots]
  simp only [plans.inDegree]
  exact sortedTexts_eq_of_perm (plans.nodeIds.filter _)

theorem initial_alike [Scalar α] (plans : p.Alike q) : (initial p).Alike (initial q) := by
  unfold initial
  rw [roots_alike plans]
  refine foldl_setState_alike ?_ q.roots .ready
  simp only [plans.inDegree]
  exact {
    nodup := by simpa [Table.keys, Function.comp_def] using plans.distinct
    progress := plans.nodeIds.map _
    executions := rfl
    pruned := rfl
    winners := rfl
    draft := rfl }

theorem deliveries_alike (plans : p.Alike q) (id : String) (out : Outcome α) :
    (deliveries p id out).map bareDelivery = (deliveries q id out).map bareDelivery := by
  have bare (p : Plan α) : (deliveries p id out).map bareDelivery =
      ((p.outgoing id).map Edge.bare).map fun e => (e, (out.find? e.source.port).join) := by
    rw [deliveries, List.map_map, List.map_map]
    rfl
  rw [bare, bare, plans.outgoing]

variable [Scalar α] [Source σ α] {parameters : Bindings α} {stream : String → σ} {host : Host}

/-- Bare nodes that are equal do the same work on states that are alike. -/
theorem perform_alike (plans : p.Alike q) (alike : r.Alike s) {n m : Node α}
    (same : n.bare = m.bare) :
    Agree (fun a b => a.1.Alike b.1 ∧ a.2 = b.2)
      (perform (⟨p, parameters, stream, host⟩ : Input σ α) r n)
      (perform (⟨q, parameters, stream, host⟩ : Input σ α) s m) := by
  have named : n.id = m.id := (congrArg Node.id same : n.bare.id = m.bare.id)
  have jobs : Job.bare ⟨n, parameters, p.retries⟩ = Job.bare ⟨m, parameters, q.retries⟩ := by
    simp only [Job.bare, same, plans.retries]
  have work (incoming : List (Fragment α)) (site : Site σ α) :
      Job.perform ⟨n, parameters, p.retries⟩ incoming site =
        Job.perform ⟨m, parameters, q.retries⟩ incoming site := by
    rw [← Job.perform_bare, jobs, Job.perform_bare]
  unfold perform
  dsimp only
  rw [named]
  split
  · rfl
  rw [work, alike.incoming, alike.draft]
  cases Job.perform ⟨m, parameters, q.retries⟩ (s.incoming m.id) ⟨s.draft, stream m.id⟩ with
  | error f site => rfl
  | ok out site =>
    exact ⟨{ alike.setState m.id .done with
      draft := rfl
      executions := congrArg (· + 1) alike.executions }, rfl⟩

theorem advance_alike (plans : p.Alike q) (alike : r.Alike s) (id : String) :
    Agree Alike (advance (⟨p, parameters, stream, host⟩ : Input σ α) r id)
      (advance (⟨q, parameters, stream, host⟩ : Input σ α) s id) := by
  have nodes := plans.nodes id
  unfold advance
  dsimp only
  cases in_p : p.graph.node? id with
  | none =>
    rw [in_p] at nodes
    rw [Option.map_eq_none_iff.1 nodes.symm]
    exact alike
  | some n =>
    rw [in_p] at nodes
    obtain ⟨m, in_q, same⟩ := Option.map_eq_some_iff.1 nodes.symm
    rw [in_q]
    refine (perform_alike plans (alike.setState id .executing) same.symm).bind ?_
    rintro ⟨a, out⟩ ⟨b, _⟩ ⟨performed, rfl⟩
    exact settleAll_alike plans performed (deliveries_alike plans id out)

theorem loop_alike (plans : p.Alike q) (alike : r.Alike s) (limit : Nat) :
    Agree Alike (loop (⟨p, parameters, stream, host⟩ : Input σ α) limit r)
      (loop (⟨q, parameters, stream, host⟩ : Input σ α) limit s) := by
  induction limit generalizing r s with
  | zero => exact alike
  | succ limit ih =>
    rw [loop, loop, alike.next?]
    cases s.next? with
    | none => exact alike
    | some id => exact (advance_alike plans alike id).bind fun a b advanced => ih advanced

theorem execute_alike (plans : p.Alike q) :
    Agree RunReport.Same (execute (⟨p, parameters, stream, host⟩ : Input σ α))
      (execute (⟨q, parameters, stream, host⟩ : Input σ α)) := by
  unfold execute
  dsimp only
  rw [plans.nodeIds.length_eq]
  refine (loop_alike plans (initial_alike plans) _).bind fun a b alike => ?_
  exact {
    layout := by rw [toReport, toReport, alike.draft]
    data := by simp only [toReport, alike.executions, alike.pruned, alike.winners]
    warnings := by rw [toReport, toReport, alike.draft]
    states := fun id => by
      simp only [toReport, Table.find?_map]
      rw [alike.find?] }

end Run

end Dungeon
