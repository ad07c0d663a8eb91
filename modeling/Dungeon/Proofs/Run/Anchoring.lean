import Dungeon.Proofs.Run.Growth
import Dungeon.Proofs.Run.Stopping
import Dungeon.Proofs.Work.Anchoring

/-!
# Fragments in flight

Fragments are held where they have arrived while other nodes work, and they name rooms of a draft that
grows meanwhile. `Moored` is what holds of all of them at every point of a run. Rooms are never taken
away, so what a node sends off stays anchored until it is used, and no node asks for a room in vain.
-/

namespace Dungeon

variable {σ α : Type}

namespace Fragment

/-- The anchors of the fragment are different rooms of the draft, and the first of them is the one to
attach to. There is none to attach to just when there are no anchors. -/
structure WellAnchored (f : Fragment α) (d : Draft α) : Prop where
  distinct : f.joined.Nodup
  first : f.joined ≠ [] → f.anchor = f.joined.head?
  placed : ∀ id ∈ f.anchors, d.hasRoom id = true
  unanchored : f.anchor = none ↔ f.anchors = []

theorem RootedIn.wellAnchored {f : Fragment α} {d : Draft α} (h : f.RootedIn d) : f.WellAnchored d := by
  have anchors_of_joined (joined : f.joined ≠ []) : f.anchors = f.joined := by
    rw [anchors, if_neg (by simpa using joined)]
  constructor
  · by_cases none_joined : f.joined = []
    · rw [none_joined]
      exact .nil
    · exact anchors_of_joined none_joined ▸ h.distinct
  · intro joined
    rw [h.first, anchors_of_joined joined]
  · exact fun id member => Draft.hasRoom_iff.2 (h.inside member)
  · rw [h.first, List.head?_eq_none_iff]

/-- A fragment stays rooted as long as no room is taken away. -/
theorem RootedIn.of_kept {f : Fragment α} {d e : Draft α} (h : f.RootedIn d)
    (kept : d.ids <+: e.ids) : f.RootedIn e where
  first := h.first
  distinct := h.distinct
  inside := fun _ member => kept.subset (h.inside member)

end Fragment

theorem Text.worded_quote (text : String) : Worded (quote text) := by
  refine ⟨quoteFor text.toList, by simp [quote], ?_⟩
  unfold quoteFor
  split <;> rfl

/-- Apart from the operator of a condition, the keys that nodes miss are not those of rooms. -/
theorem Node.MissesKey.boundsOf_ne [Scalar α] {n : Node α} {f : Fault} (misses : n.MissesKey f)
    (other : n.kind ≠ .condition) (d : Draft α) (id : String) : d.boundsOf id ≠ .error f := by
  cases misses with
  | operator kind | unwritable kind =>
    rw [Node.kind, kind] at other
    exact absurd rfl other
  | @shape _ _ i =>
    unfold Draft.boundsOf
    split
    · intro same
      cases same
    · intro same
      have quoted := Fault.missingKey.inj (Except.error.inj same)
      have worded := Text.worded_quote id
      rw [quoted] at worded
      exact Text.not_worded_number i "" (worded.append "")

namespace Run

/-- All fragments that have arrived at nodes, and all that are still on their way, are well anchored. -/
structure Moored (r : Run α) (work : List (Delivery α)) (d : Draft α) : Prop where
  arrived : ∀ id g, r.progress.find? id = some g → ∀ a ∈ g.arrivals, a.fragment.WellAnchored d
  underway : ∀ s ∈ carried work, s.2.WellAnchored d

section
variable {p : Plan α} {past : List (Execution α)} {log work : List (Delivery α)} {r : Run α}

/-- Fragments in flight were sent, so that they are well anchored when all that was sent is rooted. -/
theorem Ledger.moored (books : Ledger p past log work r) {d : Draft α}
    (rooted : ∀ s ∈ sent p past, s.2.RootedIn d) : r.Moored work d where
  arrived id g found a kept := by
    obtain ⟨e, was_sent⟩ := books.sent_of_arrival found kept
    exact (rooted _ was_sent).wellAnchored
  underway s member := by
    refine (rooted s ?_).wellAnchored
    rw [← books.carried, carried_append]
    exact List.mem_append_right _ member

end

variable [Scalar α] [Source σ α]

/-- What a node is given is well anchored, and so is what that merges to. The node misses no key but one
that its own settings get wrong, and so none of a room, and it finds no room to attach to just when no
anchor came to it. When it fails, all fragments are anchored in the draft that it leaves. -/
structure Grounded (input : Input σ α) (r : Run α) (n : Node α) : Prop where
  given : ∀ f ∈ r.incoming n.id, f.WellAnchored r.draft
  merged : ∀ f, Fragment.merge (r.incoming n.id) = .ok f → f.WellAnchored r.draft
  keys : ∀ f site, input.work r n = .error f site → f.kind = .key → n.MissesKey f
  bounds : n.kind ≠ .condition → ∀ f site, input.work r n = .error f site →
    ∀ (d : Draft α) id, d.boundsOf id ≠ .error f
  unattached : (∃ site, input.work r n = .error (.node n.id n.kind.unattached) site) ↔
    n.Unattached (r.incoming n.id)
  left : ∀ f site, input.work r n = .error f site → r.Moored [] site.draft

variable {input : Input σ α} {past : List (Execution α)} {log work : List (Delivery α)} {r : Run α}

/-- At every point of a run the draft is rooted, and so is all that has been sent. -/
theorem Passes.rooted (linked : input.plan.Linked) (passes : Passes input past log work r) :
    r.draft.Rooted ∧ ∀ s ∈ sent input.plan past, s.2.RootedIn r.draft := by
  induction passes with
  | initial =>
    obtain ⟨t, start, _⟩ := initial_eq input.plan
    rw [start]
    exact ⟨.empty, by simp⟩
  | @perform past log r r' id n out passes next node worked ih =>
    obtain ⟨rooted, anchored⟩ := ih
    have books := passes.ledger linked
    obtain ⟨g, found, _⟩ := ready_of_next? (books.keys ▸ linked.distinct) next
    obtain ⟨_, rfl⟩ := Graph.mem_of_node? node
    obtain ⟨site, done, rfl⟩ := performed found worked
    have arrived : ∀ f ∈ r.incoming n.id, f.RootedIn r.draft := books.incoming_of_sent anchored n.id
    obtain ⟨k, gained, contributed, _⟩ := (input.job n).adds_perform rooted arrived done
    show site.draft.Rooted ∧ ∀ s ∈ sent input.plan _, s.2.RootedIn site.draft
    rw [gained]
    refine ⟨contributed.rooted, fun s member => ?_⟩
    rw [sent_append, sent_singleton] at member
    rcases List.mem_append.1 member with old | new
    · exact (anchored s old).gain k
    · exact contributed.leaving s.2 (leaves_of_carried new)
  | settle _ settled ih =>
    rw [draft_settle settled]
    exact ih

theorem Passes.moored (linked : input.plan.Linked) (passes : Passes input past log work r) :
    r.Moored work r.draft :=
  (passes.ledger linked).moored (passes.rooted linked).2

/-- The loop passes the states that it comes to, whatever its limit. -/
theorem Passes.of_loop (linked : input.plan.Linked) {limit : Nat} (passes : Passes input past log [] r)
    {r' : Run α} (looped : loop input limit r = .ok r') :
    ∃ past' log', Passes input past' log' [] r' := by
  induction limit generalizing past log r with
  | zero =>
    cases looped
    exact ⟨past, log, passes⟩
  | succ limit ih =>
    rw [loop] at looped
    cases next : r.next? with
    | none =>
      rw [next] at looped
      cases looped
      exact ⟨past, log, passes⟩
    | some id =>
      rw [next] at looped
      obtain ⟨r₁, advanced, looped⟩ := except_bind_eq_ok.1 looped
      rcases passes.advance_cases linked next with
        ⟨past', log', r₂, advanced', passes', _⟩ | ⟨_, _, _, _, _, failed, _⟩
      · cases advanced.symm.trans advanced'
        exact ih passes' looped
      · rw [failed] at advanced
        cases advanced

/-- A node that works next is grounded. -/
theorem Passes.grounded (linked : input.plan.Linked) (passes : Passes input past log [] r) (n : Node α) :
    Grounded input r n := by
  obtain ⟨rooted, anchored⟩ := passes.rooted linked
  have books := passes.ledger linked
  have arrived : ∀ f ∈ r.incoming n.id, f.RootedIn r.draft := books.incoming_of_sent anchored n.id
  have fails := (input.job n).fails_perform (σ := σ) rooted arrived
  exact {
    given := fun f member => (arrived f member).wellAnchored
    merged := fun f merged => (Fragment.rootedIn_merge merged arrived).wellAnchored
    keys := fun f site failed => (fails failed).1.key
    bounds := by
      intro other f site failed d id same
      have key : f.kind = .key := by
        unfold Draft.boundsOf at same
        split at same
        · cases same
        · cases same
          rfl
      exact ((fails failed).1.key key).boundsOf_ne other d id same
    unattached := by
      constructor
      · rintro ⟨site, failed⟩
        exact (fails failed).1.room rfl
      · exact fun bare => ⟨_, (input.job n).perform_unattached bare arrived _⟩
    left := fun f site failed =>
      books.moored fun s member => (anchored s member).of_kept (fails failed).2 }

/-- A run fails because the host refuses to go on, or at a node that works next. -/
theorem failing_of_execute (closed : input.plan.Closed) {fault : Fault}
    (failed : execute input = .error fault) :
    input.host.Refuses input.plan.graph fault ∨ ∃ past log r n f site,
      Passes input past log [] r ∧ r.next? = some n.id ∧
      input.plan.graph.node? n.id = some n ∧ input.work r n = .error f site ∧
      fault = failure n.id f := by
  obtain ⟨past, log, work, r, outcome, passes, ends, ran⟩ := execute_ends closed.linked
  rw [ran] at failed
  cases ends with
  | resting => cases failed
  | failing next node _ worked =>
    obtain ⟨_, rfl⟩ := Graph.mem_of_node? node
    exact .inr ⟨past, log, r, _, _, _, passes, next, node, worked, (Except.error.inj failed).symm⟩
  | refused next node _ refusal =>
    obtain ⟨member, rfl⟩ := Graph.mem_of_node? node
    cases failed
    exact .inl (.id member refusal)
  | straying edge portless =>
    obtain ⟨i, port⟩ := closed.ports _ edge
    rw [portless] at port
    cases port
  | sinking long chain pruned =>
    cases failed
    exact .inl (.descent ((passes.ledger closed.linked).deeperThan long chain pruned))

/-- At every point of every run of an accepted graph all fragments in flight are well anchored: those that
have arrived at nodes, those still on their way, and those given to the node that works next. That node
asks for no room in vain, and only where no anchor came to it does it find no room to attach to. When the
run fails, it does so at such a node, unless the host refuses to go on. -/
theorem fragments_moored {g : Graph α} {found : Graph.Report} (valid : g.ensureValid = .ok found)
    (retries : Value α) (parameters : Bindings α) (stream : String → σ) (host : Host) :
    ∃ plan, Plan.ofValid g retries = .ok plan ∧ plan.graph = g ∧
      (∀ past log work r, Passes (⟨plan, parameters, stream, host⟩ : Input σ α) past log work r →
        r.Moored work r.draft) ∧
      (∀ past log r, Passes (⟨plan, parameters, stream, host⟩ : Input σ α) past log [] r →
        ∀ id n, r.next? = some id → g.node? id = some n →
          Grounded (⟨plan, parameters, stream, host⟩ : Input σ α) r n) ∧
      ∀ fault, execute (⟨plan, parameters, stream, host⟩ : Input σ α) = .error fault →
        host.Refuses g fault ∨ ∃ past log r n f site,
          Passes (⟨plan, parameters, stream, host⟩ : Input σ α) past log [] r ∧
          r.next? = some n.id ∧ g.node? n.id = some n ∧
          (⟨plan, parameters, stream, host⟩ : Input σ α).work r n = .error f site ∧
          fault = failure n.id f := by
  have sound := Graph.sound_of_ensureValid valid
  have closed : (⟨⟨g, retries⟩, parameters, stream, host⟩ : Input σ α).plan.Closed := sound.closed retries
  exact ⟨_, Graph.Sound.plan_of_ensureValid retries valid, rfl,
    fun past log work r passes => passes.moored closed.linked,
    fun past log r passes _ n _ _ => passes.grounded closed.linked n,
    fun fault failed => failing_of_execute closed failed⟩

end Run

namespace Yard

open Run.Gate.graph (node)

/-- Ways from two rooms meet before an exit. Another exit lies right behind the start, where no room is. -/
def graph : Graph Float where
  nodes := [
    node "start" (.start {}) [] ["out"],
    node "east" (.room { plan := Vault.graph.plan }) ["in"] ["out"],
    node "west" (.room { plan := Vault.graph.plan }) ["in"] ["out"],
    node "meet" (.merge {}) ["east", "west"] ["out"],
    node "exit" (.output {}) ["in"] [],
    node "yard" (.output {}) ["in"] []]
  edges := [
    { id := "right", source := ⟨"start", "out"⟩, target := ⟨"east", "in"⟩ },
    { id := "left", source := ⟨"start", "out"⟩, target := ⟨"west", "in"⟩ },
    { id := "outside", source := ⟨"start", "out"⟩, target := ⟨"yard", "in"⟩ },
    { id := "from_east", source := ⟨"east", "out"⟩, target := ⟨"meet", "east"⟩ },
    { id := "from_west", source := ⟨"west", "out"⟩, target := ⟨"meet", "west"⟩ },
    { id := "leave", source := ⟨"meet", "out"⟩, target := ⟨"exit", "in"⟩ }]

/-- A run in which all nodes draw alike. -/
def input : Run.Input Random.Stream Float where
  plan := ⟨graph, .int 10⟩
  parameters := []
  stream := fun _ => .ofSeed 7

theorem valid : ∃ found, graph.ensureValid = .ok found := ⟨_, rfl⟩

/-- The first exit is given one fragment that both rooms have joined. The other one comes last, and what it is
given has no anchor. -/
theorem comes_to_yard : ∃ r, Run.loop input 5 (Run.initial input.plan) = .ok r ∧
    r.next? = some "yard" ∧ (r.incoming "exit").map Fragment.joined = [["east", "west"]] ∧
    ∃ f, Fragment.merge (r.incoming "yard") = .ok f ∧ f.anchors = [] := by
  have facts : (Run.loop input 5 (Run.initial input.plan)).toOption.map (fun r => (r.next?,
      (r.incoming "exit").map Fragment.joined,
      (Fragment.merge (r.incoming "yard")).toOption.map Fragment.anchors)) =
      some (some "yard", [["east", "west"]], some []) := by decide +kernel
  obtain ⟨r, looped, read⟩ := except_toOption_map_eq_some.1 facts
  obtain ⟨next, read⟩ := Prod.mk.inj read
  obtain ⟨joined, read⟩ := Prod.mk.inj read
  exact ⟨r, looped, next, joined, except_toOption_map_eq_some.1 read⟩

end Yard

/-- On the way to the yard both rooms have joined in one fragment, and the yard itself has no room. -/
theorem Run.fragments_moored_yard : ∃ past log r n, Passes Yard.input past log [] r ∧
    r.Moored [] r.draft ∧ (r.incoming "exit").map Fragment.joined = [["east", "west"]] ∧
    r.next? = some "yard" ∧ Yard.graph.node? "yard" = some n ∧ Grounded Yard.input r n ∧
    ∃ site, Yard.input.work r n =
      .error (.node "yard" "output node has no room to attach to") site := by
  obtain ⟨found, valid⟩ := Yard.valid
  obtain ⟨r, looped, next, joined, merged⟩ := Yard.comes_to_yard
  obtain ⟨plan, made, _, moored, grounded, _⟩ := fragments_moored valid (.int 10)
    Yard.input.parameters Yard.input.stream Yard.input.host
  cases made.symm.trans (Graph.Sound.plan_of_ensureValid _ valid)
  have linked : Yard.input.plan.Linked :=
    ((Graph.sound_of_ensureValid valid).closed (.int 10)).linked
  obtain ⟨past, log, passes⟩ := Passes.initial.of_loop linked looped
  obtain ⟨n, node⟩ : ∃ n, Yard.graph.node? "yard" = some n := ⟨_, rfl⟩
  have safe := grounded past log r passes "yard" n next node
  have exits : n.id = "yard" ∧ n.kind = .output := by
    cases node
    exact ⟨rfl, rfl⟩
  have failed := safe.unattached.2 ⟨by rw [exits.2]; rfl, exits.1 ▸ merged⟩
  rw [exits.1, exits.2] at failed
  exact ⟨past, log, r, n, passes, moored _ _ _ _ passes, joined, next, node, safe, failed⟩

end Dungeon
