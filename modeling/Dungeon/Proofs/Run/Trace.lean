import Dungeon.Proofs.Run.Nesting

/-!
# Traces

A trace is the list of executions that have brought a run to a state: which node ran, on which
fragments, and what left its ports. `Reaches` is the loop of `Run.loop` without its limit, so it also
speaks of runs that fail later on.
-/

namespace Dungeon.Run

/-- One node has run. -/
structure Execution (α : Type) where
  id : String
  incoming : List (Fragment α)
  outcome : Outcome α

section
variable {α : Type}

/-- The deliveries that carry a fragment. -/
def carried (log : List (Delivery α)) : List (Edge α × Fragment α) :=
  log.filterMap fun d => d.2.map fun f => (d.1, f)

/-- The fragments that have been sent, in the order in which nodes ran and edges leave them. -/
def sent (p : Plan α) (past : List (Execution α)) : List (Edge α × Fragment α) :=
  carried (past.flatMap fun x => deliveries p x.id x.outcome)

@[simp] theorem carried_nil : carried ([] : List (Delivery α)) = [] := rfl

@[simp] theorem carried_append (xs ys : List (Delivery α)) :
    carried (xs ++ ys) = carried xs ++ carried ys :=
  List.filterMap_append

@[simp] theorem carried_cons (d : Delivery α) (log : List (Delivery α)) :
    carried (d :: log) = (d.2.map fun f => (d.1, f)).toList ++ carried log := by
  rcases d with ⟨e, _ | f⟩ <;> rfl

@[simp] theorem carried_none (edges : List (Edge α)) :
    carried (edges.map fun e => (e, none)) = [] := by
  simp [carried]

@[simp] theorem sent_nil (p : Plan α) : sent p [] = [] := rfl

@[simp] theorem sent_append (p : Plan α) (xs ys : List (Execution α)) :
    sent p (xs ++ ys) = sent p xs ++ sent p ys := by
  simp [sent]

@[simp] theorem sent_singleton (p : Plan α) (x : Execution α) :
    sent p [x] = carried (deliveries p x.id x.outcome) := by
  simp [sent]

theorem map_fst_deliveries (p : Plan α) (id : String) (out : Outcome α) :
    (deliveries p id out).map Prod.fst = p.outgoing id := by
  simp [deliveries, Function.comp_def]

/-- The node that runs next is ready, and no ready node has a lesser id. -/
theorem ready_of_next? {r : Run α} (nodup : r.progress.keys.Nodup) {id : String}
    (h : r.next? = some id) : ∃ g, r.progress.find? id = some g ∧ g.state = .ready := by
  have member : id ∈ (r.progress.entries.filter fun e => e.2.state = .ready).map Prod.fst :=
    mem_sortedTexts.1 (List.mem_of_head? h)
  obtain ⟨⟨_, g⟩, kept, rfl⟩ := List.mem_map.1 member
  obtain ⟨entry, ready⟩ := List.mem_filter.1 kept
  exact ⟨g, (Table.mem_entries_iff nodup).1 entry, of_decide_eq_true ready⟩

theorem not_ready_of_next? {r : Run α} (h : r.next? = none) {id : String} {g : Progress α}
    (found : r.progress.find? id = some g) : g.state ≠ .ready := by
  intro ready
  have empty := List.map_eq_nil_iff.1 (head?_sortedTexts_eq_none.1 h)
  have kept : (id, g) ∈ r.progress.entries.filter fun e => e.2.state = .ready :=
    List.mem_filter.2 ⟨Table.mem_of_lookup found, decide_eq_true ready⟩
  rw [empty] at kept
  exact List.not_mem_nil kept

theorem incoming_setState (r : Run α) (id : String) (s : NodeState) :
    (r.setState id s).incoming id = r.incoming id := by
  unfold setState update
  cases found : r.progress.find? id with
  | none => rfl
  | some g => simp [incoming, found, Table.find?_insert]

theorem incoming_eq {r : Run α} {id : String} {g : Progress α}
    (found : r.progress.find? id = some g) :
    r.incoming id = (sortBy Arrival.before g.arrivals).map Arrival.fragment := by
  rw [incoming, found]

end

variable {σ α : Type} [Scalar α] [Source σ α]

/-- The job of a node in a run. -/
def Input.job (input : Input σ α) (n : Node α) : Job α :=
  { node := n, parameters := input.parameters, retries := input.plan.retries }

/-- The work of a node on the fragments that have arrived there. -/
def Input.work (input : Input σ α) (r : Run α) (n : Node α) :
    EStateM.Result Fault (Site σ α) (Outcome α) :=
  (input.job n).perform (r.incoming n.id) ⟨r.draft, input.stream n.id⟩

/-- The run comes to a state by these executions. -/
inductive Reaches (input : Input σ α) : List (Execution α) → Run α → Prop
  | initial : Reaches input [] (initial input.plan)
  | step {past : List (Execution α)} {r r' r'' : Run α} {id : String} {n : Node α}
      {out : Outcome α} :
      Reaches input past r → r.next? = some id → input.plan.graph.node? id = some n →
      perform input (r.setState id .executing) n = .ok (r', out) →
      settleAll input.plan input.host.nesting (deliveries input.plan id out) r' = .ok r'' →
      Reaches input (past ++ [⟨id, r.incoming id, out⟩]) r''

/-- A node whose id is refused does not come to its work. -/
theorem perform_refused {input : Input σ α} {n : Node α} {text : String}
    (refused : input.host.refusal n.id = some text) (r : Run α) :
    perform input r n = .error (.unencodable text) := by
  rw [perform, refused]

theorem perform_executing {input : Input σ α} {r : Run α} {n : Node α} {g : Progress α}
    (taken : input.host.refusal n.id = none) (found : r.progress.find? n.id = some g) :
    perform input (r.setState n.id .executing) n =
      match input.work r n with
      | .ok out site =>
        .ok ({ r with
          progress := r.progress.insert n.id { g with state := .done }
          draft := site.draft, executions := r.executions + 1 }, out)
      | .error f _ => .error (failure n.id f) := by
  have executing : r.setState n.id .executing =
      { r with progress := r.progress.insert n.id { g with state := .executing } } :=
    update_eq found _
  have done : (r.setState n.id .executing).setState n.id .done =
      { r with progress := r.progress.insert n.id { g with state := .done } } := by
    rw [executing, setState, update_eq (g := { g with state := .executing })
      (by rw [Table.find?_insert, if_pos rfl])]
    simp only [Table.insert_insert]
  have draft : (r.setState n.id .executing).draft = r.draft := by rw [executing]
  have executions : (r.setState n.id .executing).executions = r.executions := by rw [executing]
  cases worked : input.work r n with
  | ok out site | error f site =>
    rw [Input.work, Input.job] at worked
    simp only [perform, taken, incoming_setState, done, draft, executions, worked]

/-- A node that has run has an id that is taken. -/
theorem taken_of_perform {input : Input σ α} {r r' : Run α} {n : Node α} {out : Outcome α}
    (h : perform input r n = .ok (r', out)) : input.host.refusal n.id = none := by
  cases refusal : input.host.refusal n.id with
  | none => rfl
  | some text =>
    rw [perform_refused refusal] at h
    cases h

/-- What a node that has run leaves behind, besides its outcome. -/
theorem performed {input : Input σ α} {r r' : Run α} {n : Node α} {g : Progress α}
    {out : Outcome α} (found : r.progress.find? n.id = some g)
    (h : perform input (r.setState n.id .executing) n = .ok (r', out)) :
    ∃ site : Site σ α, input.work r n = .ok out site ∧
      r' = { r with
        progress := r.progress.insert n.id { g with state := .done }
        draft := site.draft, executions := r.executions + 1 } := by
  rw [perform_executing (taken_of_perform h) found] at h
  cases worked : input.work r n with
  | error f site => simp [worked] at h
  | ok out' site =>
    simp only [worked, Except.ok.injEq, Prod.mk.injEq] at h
    exact ⟨site, by rw [h.2], h.1.symm⟩

section
variable {input : Input σ α} {r s : Run α} {id : String} {n : Node α} {out : Outcome α}

theorem perform_eq_ok (h : perform input r n = .ok (s, out)) :
    ∃ site, input.work r n = .ok out site ∧
      s = { r.setState n.id .done with draft := site.draft, executions := r.executions + 1 } := by
  have taken := taken_of_perform h
  cases worked : input.work r n with
  | error f site =>
    rw [Input.work, Input.job] at worked
    simp only [perform, taken, worked] at h
    cases h
  | ok out' site =>
    rw [Input.work, Input.job] at worked
    simp only [perform, taken, worked] at h
    cases h
    exact ⟨site, rfl, rfl⟩

/-- Nothing happens under an id that no node has. -/
theorem advance_none (missing : input.plan.graph.node? id = none) : advance input r id = .ok r := by
  rw [advance, missing]

theorem advance_eq_ok (node : input.plan.graph.node? id = some n) (h : advance input r id = .ok s) :
    ∃ t out, perform input (r.setState id .executing) n = .ok (t, out) ∧
      settleAll input.plan input.host.nesting (deliveries input.plan id out) t = .ok s := by
  rw [advance, node] at h
  obtain ⟨⟨t, out⟩, performed, settled⟩ := except_bind_eq_ok.1 h
  exact ⟨t, out, performed, settled⟩

end

end Dungeon.Run
