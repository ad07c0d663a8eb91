import Dungeon.Proofs.Run.Delivery
import Dungeon.Proofs.Work.Pieces

/-!
# How the layout grows

Only the work of nodes writes to the draft, and each node that runs adds its own contribution to it.
`Grown` is what holds of a run in every state: the draft is the sum of what the executions so far have
contributed, it is rooted, and so are all fragments that were ever sent. When the run returns, the
layout is the sum of the contributions of the done nodes and nothing else.
-/

namespace Dungeon

variable {σ α : Type}

/-- The layout is the sum of the contributions: their rooms with all content that was put there, and
their connections, spawn points and exits, in the order of the contributions. -/
structure Layout.Sums (l : Layout α) (ks : List (Contribution α)) : Prop where
  rooms : l.rooms.map Room.bare = ks.flatMap Contribution.rooms
  distinct : (l.rooms.map Room.id).Nodup
  entities : ∀ r ∈ l.rooms, r.entities = ks.flatMap (·.into r.id)
  homes : ∀ k ∈ ks, ∀ x ∈ k.content, x.1 ∈ l.rooms.map Room.id
  connections : l.connections = ks.flatMap Contribution.connections
  spawnPoints : l.spawnPoints = ks.flatMap Contribution.spawnPoints
  exits : l.exits = ks.flatMap Contribution.exits
  exitRooms : ∀ x ∈ l.exits, x.roomId ∈ l.rooms.map Room.id

/-- What a draft gains comes to the sum. -/
theorem Draft.sums_gain [Scalar α] {d : Draft α} {ks : List (Contribution α)} {k : Contribution α}
    (sums : d.toLayout.Sums ks) (bare : ∀ r ∈ k.rooms, r.entities = [])
    (homes : ∀ x ∈ k.content, x.1 ∈ d.ids) (exits : ∀ x ∈ k.exits, x.roomId ∈ d.ids)
    (distinct : (d.gain k).ids.Nodup) : (d.gain k).toLayout.Sums (ks ++ [k]) := by
  have all_ids : (d.gain k).toLayout.rooms.map Room.id = d.ids ++ k.rooms.map Room.id := d.ids_gain k
  have apart : ∀ id ∈ d.ids, ∀ r ∈ k.rooms, id ≠ r.id := by
    intro id old r new
    rw [d.ids_gain] at distinct
    exact (List.nodup_append.1 distinct).2.2 id old r.id (List.mem_map_of_mem new)
  exact {
    rooms := by
      have added : k.rooms.map Room.bare = k.rooms := by
        refine List.map_congr_left (fun r new => ?_) |>.trans (List.map_id _)
        rw [Room.bare, ← bare r new]
        rfl
      have kept : (d.rooms.map (Room.furnish k)).map Room.bare = d.rooms.map Room.bare := by
        simp [Function.comp_def]
      show (d.rooms.map (Room.furnish k) ++ k.rooms).map Room.bare = _
      rw [List.map_append, kept, added, List.flatMap_append, List.flatMap_singleton, ← sums.rooms]
      rfl
    distinct := distinct
    entities := by
      intro r member
      rw [List.flatMap_append, List.flatMap_singleton]
      rcases List.mem_append.1 member with old | new
      · obtain ⟨r₀, there, rfl⟩ := List.mem_map.1 old
        exact congrArg (· ++ k.into r₀.id) (sums.entities r₀ there)
      · -- All content so far is in rooms that were there before the new room.
        have nothing_before : ks.flatMap (·.into r.id) = [] := by
          refine List.flatMap_eq_nil_iff.2 fun l before => Contribution.into_eq_nil ?_
          exact fun x put => apart x.1 (sums.homes l before x put) r new
        rw [nothing_before, Contribution.into_eq_nil fun x put => apart x.1 (homes x put) r new]
        exact bare r new
    homes := by
      intro l member x put
      rw [all_ids]
      refine List.mem_append_left _ ?_
      rcases List.mem_append.1 member with before | last
      · exact sums.homes l before x put
      · exact homes x (List.mem_singleton.1 last ▸ put)
    connections := by
      rw [List.flatMap_append, List.flatMap_singleton, ← sums.connections]
      rfl
    spawnPoints := by
      rw [List.flatMap_append, List.flatMap_singleton, ← sums.spawnPoints]
      rfl
    exits := by
      rw [List.flatMap_append, List.flatMap_singleton, ← sums.exits]
      rfl
    exitRooms := by
      intro x member
      rw [all_ids]
      refine List.mem_append_left _ ?_
      rcases List.mem_append.1 member with old | new
      · exact sums.exitRooms x old
      · exact exits x new }

namespace Run

section
variable {p : Plan α} {past : List (Execution α)} {log : List (Delivery α)} {r r' : Run α}

theorem Settled.draft {e : Edge α} {g : Progress α} {f : Option (Fragment α)}
    {more : List (Delivery α)} (step : Settled p r e g f r' more) : r'.draft = r.draft := by
  cases step <;> rfl

/-- Settling an edge does not write to the draft. -/
theorem draft_settle {d : Delivery α} {more : List (Delivery α)}
    (h : r.settle p d = .ok (r', more)) : r'.draft = r.draft := by
  obtain ⟨e, f⟩ := d
  cases found : r.progress.find? e.target.node with
  | some g => exact (settled_of_settle found h).draft
  | none =>
    cases (settle_none found f).symm.trans h
    rfl

theorem Settles.draft {work work' : List (Delivery α)} (settles : Settles p work r work' r') :
    r'.draft = r.draft := by
  induction settles with
  | refl => rfl
  | step settled _ ih => exact ih.trans (draft_settle settled)

theorem draft_settleAll {nesting : Nat} {work : List (Delivery α)}
    (h : settleAll p nesting work r = .ok r') : r'.draft = r.draft :=
  (settles_of_settleAll h).draft

/-- What has arrived at a node was sent, whatever is still to be settled. -/
theorem Ledger.sent_of_arrival {work : List (Delivery α)} (books : Ledger p past log work r)
    {id : String} {g : Progress α} (found : r.progress.find? id = some g) {a : Arrival α}
    (kept : a ∈ g.arrivals) : ∃ e, (e, a.fragment) ∈ sent p past := by
  rw [(books.accounts id g found).arrivals] at kept
  obtain ⟨s, admitted, rfl⟩ := List.mem_map.1 kept
  have settled : s ∈ Run.carried log := List.mem_of_mem_filter (p.admits_subset id _ admitted)
  rw [← books.carried, carried_append]
  exact ⟨s.1, List.mem_append_left _ settled⟩

/-- What holds of all that was sent holds of what a node is given. -/
theorem Ledger.incoming_of_sent {work : List (Delivery α)} (books : Ledger p past log work r)
    {P : Fragment α → Prop} (all : ∀ s ∈ sent p past, P s.2) (id : String) :
    ∀ f ∈ r.incoming id, P f := by
  intro f arrived
  cases found : r.progress.find? id with
  | none => simp [incoming, found] at arrived
  | some g =>
    rw [incoming_eq found] at arrived
    obtain ⟨a, sorted, rfl⟩ := List.mem_map.1 arrived
    obtain ⟨e, was_sent⟩ := books.sent_of_arrival found ((sortBy_perm _ _).mem_iff.1 sorted)
    exact all _ was_sent

/-- What is sent along an edge has left its node. -/
theorem leaves_of_carried {id : String} {out : Outcome α} {s : Edge α × Fragment α}
    (member : s ∈ carried (deliveries p id out)) : Job.Leaves out s.2 := by
  rw [carried_deliveries] at member
  obtain ⟨e, _, left⟩ := List.mem_filterMap.1 member
  obtain ⟨f, given, rfl⟩ := Option.map_eq_some_iff.1 left
  exact ⟨e.source.port, given⟩

end

variable [Scalar α] [Source σ α]

/-- The parts are what the executions have contributed, in this order. The draft is what an empty one
becomes by them, their sum, and it is rooted with all that was sent. -/
structure Grown (input : Input σ α) (past : List (Execution α)) (r : Run α)
    (parts : List (Node α × Contribution α)) : Prop where
  ran : (parts.map fun x => x.1.id) = past.map Execution.id
  nodes : ∀ x ∈ parts, input.plan.graph.node? x.1.id = some x.1
  contributes : ∀ x ∈ parts, x.1.Contributes (CountRange.Draws σ) x.2
  gained : r.draft = (parts.map Prod.snd).foldl Draft.gain .empty
  sums : r.draft.toLayout.Sums (parts.map Prod.snd)
  rooted : r.draft.Rooted
  sent : ∀ s ∈ sent input.plan past, s.2.RootedIn r.draft

variable {input : Input σ α} {past : List (Execution α)} {r : Run α}

theorem grown_initial (input : Input σ α) : Grown input [] (initial input.plan) [] := by
  obtain ⟨t, start, _⟩ := initial_eq input.plan
  have draft : (initial input.plan).draft = Draft.empty := by rw [start]
  refine ⟨rfl, by simp, by simp, draft, ?_, draft ▸ Draft.Rooted.empty, by simp⟩
  rw [draft]
  constructor <;> simp [Draft.toLayout, Draft.empty]

/-- What arrives at a node is rooted in the draft. -/
theorem Grown.arrived {parts : List (Node α × Contribution α)} {log : List (Delivery α)}
    (grown : Grown input past r parts) (books : Ledger input.plan past log [] r) (id : String) :
    ∀ f ∈ r.incoming id, f.RootedIn r.draft :=
  books.incoming_of_sent grown.sent id

/-- The work of a node adds a contribution, to the draft and to all drafts like it. -/
theorem Grown.performs {parts : List (Node α × Contribution α)} {log : List (Delivery α)}
    (grown : Grown input past r parts) (books : Ledger input.plan past log [] r) {n : Node α}
    {out : Outcome α} {site : Site σ α} (worked : input.work r n = .ok out site) :
    ∃ k, site.draft = r.draft.gain k ∧
      (input.job n).Performed (CountRange.Draws σ) r.draft out k ∧
      ∀ e, r.draft.Alike e → (input.job n).perform (r.incoming n.id) ⟨e, input.stream n.id⟩ =
        .ok out ⟨e.gain k, site.stream⟩ :=
  (input.job n).adds_perform grown.rooted (grown.arrived books n.id) worked

/-- One more contribution comes to the parts. -/
theorem Grown.snoc {parts : List (Node α × Contribution α)} (grown : Grown input past r parts)
    {n : Node α} (node : input.plan.graph.node? n.id = some n) {out : Outcome α}
    {k : Contribution α} (done : (input.job n).Performed (CountRange.Draws σ) r.draft out k)
    {r' : Run α} (draft : r'.draft = r.draft.gain k) (incoming : List (Fragment α)) :
    Grown input (past ++ [⟨n.id, incoming, out⟩]) r' (parts ++ [(n, k)]) where
  ran := by simp [grown.ran]
  nodes := List.forall_mem_append.2 ⟨grown.nodes, by simpa using node⟩
  contributes := List.forall_mem_append.2 ⟨grown.contributes, by simpa using! done.contributes⟩
  gained := by rw [draft, grown.gained, List.map_append, List.foldl_append]; rfl
  sums := by
    rw [draft, List.map_append]
    exact Draft.sums_gain grown.sums done.contributes.bare_rooms done.homes done.exits
      done.rooted.rooms.distinct
  rooted := draft ▸ done.rooted
  sent := by
    intro s member
    rw [draft]
    rw [sent_append, sent_singleton] at member
    rcases List.mem_append.1 member with old | new
    · exact (grown.sent s old).gain k
    · exact done.leaving s.2 (leaves_of_carried new)

/-- In every state that a run comes to the draft is the sum of what the nodes have contributed. -/
theorem Reaches.grown (closed : input.plan.Closed) (reached : Reaches input past r) :
    ∃ parts, Grown input past r parts := by
  -- Each execution adds one part; the ledger shows that what came to its node was sent before.
  induction reached with
  | initial => exact ⟨[], grown_initial input⟩
  | @step past r r' r'' id n out reached next node worked settled ih =>
    obtain ⟨parts, grown⟩ := ih
    obtain ⟨log, books⟩ := reached.ledger closed
    obtain ⟨g, found, _, _⟩ := books.of_next? closed next
    obtain ⟨_, rfl⟩ := Graph.mem_of_node? node
    obtain ⟨site, done, rfl⟩ := performed found worked
    obtain ⟨k, gained, contributed, _⟩ := grown.performs books done
    have draft : r''.draft = r.draft.gain k := (draft_settleAll settled).trans gained
    exact ⟨parts ++ [(n, k)], grown.snoc node contributed draft _⟩

/-- What every piece keeps is kept by the run. -/
theorem Reaches.keeps {I : Draft α → Prop} (closed : input.plan.Closed) (empty : I .empty)
    (kept : ∀ n d k, (input.job n).Piece σ d k → I d → I (d.gain k))
    (reached : Reaches input past r) : I r.draft := by
  induction reached with
  | initial =>
    obtain ⟨t, start, _⟩ := initial_eq input.plan
    rw [start]
    exact empty
  | @step past r r' r'' id n out reached next node worked settled ih =>
    obtain ⟨parts, grown⟩ := reached.grown closed
    obtain ⟨log, books⟩ := reached.ledger closed
    obtain ⟨g, found, _, _⟩ := books.of_next? closed next
    obtain ⟨_, rfl⟩ := Graph.mem_of_node? node
    obtain ⟨site, done, rfl⟩ := performed found worked
    obtain ⟨k, gained, ⟨_, pieces⟩, _⟩ :=
      (input.job n).lays_perform grown.rooted (grown.arrived books n.id) done
    have draft : r''.draft = r.draft.gain k := (draft_settleAll settled).trans gained
    rw [draft]
    exact pieces.keep (kept n) ih

end Run

def CountRange.Holds (range : CountRange) (m : Int) : Prop := range.low ≤ m ∧ m ≤ range.high

/-- What is drawn for a range lies in it, as long as a stream keeps to its bounds. -/
theorem CountRange.Draws.holds [Source σ α] (bounded : ∀ n (s : σ), (Source.upTo n s).1 ≤ n)
    {range : CountRange} {m : Int} (drawn : range.Draws σ m) : range.Holds m := by
  obtain ⟨s, t, drawn⟩ := drawn
  obtain ⟨ordered, u, least⟩ := Draw.integer_eq_ok drawn
  have most := bounded (range.high - range.low).toNat u
  rw [Holds]
  omega

/-- The parts are contributions of the done nodes, one of each. The layout is their sum and what an
empty draft becomes by them, so there is nothing in it from a pruned node. -/
structure RunReport.Sums [Scalar α] (g : Graph α) (report : RunReport α)
    (parts : List (Node α × Contribution α)) : Prop where
  once : (parts.map fun x => x.1.id).Nodup
  done : ∀ n, n ∈ parts.map Prod.fst ↔ n ∈ g.nodes ∧ report.states.find? n.id = some .done
  contributes : ∀ x ∈ parts, x.1.Contributes CountRange.Holds x.2
  layout : report.layout.Sums (parts.map Prod.snd)
  gained : report.layout = ((parts.map Prod.snd).foldl Draft.gain .empty).toLayout

namespace Run

variable [Scalar α] [Source σ α]

/-- When the run of an accepted graph returns, its layout is the sum of one contribution of each done
node, of the form that the node's kind and settings allow, and nothing else is in it. -/
theorem layout_sums {g : Graph α} {found : Graph.Report} (valid : g.ensureValid = .ok found)
    (retries : Value α) (parameters : Bindings α) (stream : String → σ) (host : Host)
    (bounded : ∀ n (s : σ), (Source.upTo n s).1 ≤ n) :
    ∃ plan, Plan.ofValid g retries = .ok plan ∧
      ∀ report, execute (⟨plan, parameters, stream, host⟩ : Input σ α) = .ok report →
        ∃ parts, report.Sums g parts := by
  have sound := Graph.sound_of_ensureValid valid
  refine ⟨_, Graph.Sound.plan_of_ensureValid retries valid, fun report ran => ?_⟩
  obtain ⟨past, r, reached, rest, rfl⟩ := reaches_of_execute (sound.closed retries) ran
  obtain ⟨log, books⟩ := reached.ledger (sound.closed retries)
  obtain ⟨parts, grown⟩ := reached.grown (sound.closed retries)
  have inside : ∀ x ∈ parts, x.1 ∈ g.nodes := fun x member =>
    (Graph.mem_of_node? (grown.nodes x member)).1
  refine ⟨parts, {
    once := grown.ran ▸ books.once
    done := fun n => ?_
    contributes := fun x member =>
      (grown.contributes x member).mono fun _ _ drawn => drawn.holds bounded
    layout := grown.sums
    gained := congrArg Draft.toLayout grown.gained }⟩
  rw [toReport_states, books.done, ← grown.ran]
  constructor
  · intro member
    obtain ⟨x, part, rfl⟩ := List.mem_map.1 member
    exact ⟨inside x part, List.mem_map_of_mem part⟩
  · rintro ⟨node, ran⟩
    obtain ⟨x, part, same⟩ := List.mem_map.1 ran
    exact List.mem_map.2 ⟨x, part, sound.node_inj (inside x part) node same⟩

end Run

namespace Vault

open Run.Gate.graph (node)

/-- Behind a hall of two rooms stand chests and stairs, and a closed gate leads to a vault. -/
def graph : Graph Float where
  nodes := [
    node "start" (.start {}) [] ["out"],
    node "hall" (.roomChain { count := .proper ⟨2, 2⟩, plan }) ["in"] ["out"],
    node "chests" (.prop {}) ["in"] [],
    node "gate" (.condition { parameter := .text "open" }) ["in"] ["true", "false"],
    node "stairs" (.output {}) ["in"] [],
    node "vault" (.room { plan }) ["in"] ["out"]]
  edges := [
    { id := "enter", source := ⟨"start", "out"⟩, target := ⟨"hall", "in"⟩ },
    { id := "furnish", source := ⟨"hall", "out"⟩, target := ⟨"chests", "in"⟩ },
    { id := "leave", source := ⟨"hall", "out"⟩, target := ⟨"gate", "in"⟩ },
    { id := "climb", source := ⟨"gate", "false"⟩, target := ⟨"stairs", "in"⟩ },
    { id := "unlock", source := ⟨"gate", "true"⟩, target := ⟨"vault", "in"⟩ }]
where
  plan : RoomPlan Float := { size := .proper .ofChain }

/-- A run with the gate closed, all nodes drawing alike. -/
def input : Run.Input Random.Stream Float where
  plan := ⟨graph, .int 10⟩
  parameters := [(.text "open", .bool false)]
  stream := fun _ => .ofSeed 7

theorem valid : ∃ found, graph.ensureValid = .ok found := ⟨_, rfl⟩

/-- The hall is built and furnished, and the vault is not. -/
theorem returns : ∃ report, Run.execute input = .ok report ∧
    report.layout.rooms.map Room.id = ["hall_0", "hall_1"] ∧
    report.states.find? "chests" = some .done ∧ report.states.find? "vault" = some .pruned := by
  have facts : (Run.execute input).toOption.map (fun report =>
      (report.layout.rooms.map Room.id, report.states.find? "chests", report.states.find? "vault")) =
      some (["hall_0", "hall_1"], some .done, some .pruned) := by decide +kernel
  obtain ⟨report, ran, read⟩ := except_toOption_map_eq_some.1 facts
  obtain ⟨rooms, states⟩ := Prod.mk.inj read
  obtain ⟨chests, vault⟩ := Prod.mk.inj states
  exact ⟨report, ran, rooms, chests, vault⟩

end Vault

namespace Run

theorem layout_sums_vault : ∃ report parts, execute Vault.input = .ok report ∧
    report.Sums Vault.graph parts ∧ report.layout.rooms.map Room.id = ["hall_0", "hall_1"] ∧
    ∀ x ∈ parts, x.1.id ≠ "vault" := by
  obtain ⟨found, valid⟩ := Vault.valid
  obtain ⟨report, ran, rooms, _, pruned⟩ := Vault.returns
  obtain ⟨plan, made, sums⟩ := layout_sums valid Vault.input.plan.retries Vault.input.parameters
    Vault.input.stream Vault.input.host Random.Stream.upTo_le
  cases made.symm.trans (Graph.Sound.plan_of_ensureValid _ valid)
  obtain ⟨parts, sums⟩ := sums report ran
  refine ⟨report, parts, ran, sums, rooms, fun x part same => ?_⟩
  have done := ((sums.done x.1).1 (List.mem_map_of_mem part)).2
  rw [same, pruned] at done
  cases done

end Run

end Dungeon
