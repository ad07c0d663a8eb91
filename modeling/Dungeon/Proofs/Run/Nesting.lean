import Dungeon.Proofs.Failing
import Dungeon.Proofs.Graph.Sound
import Dungeon.Proofs.Run.Settling
import Dungeon.Proofs.Sorting

/-!
# Settling edges in turn

`Settles` goes on edge by edge, with what follows from an edge put in front of the others, and knows
no limit. What `Run.settleAll` does is of this form, so everything that one edge keeps is kept by all
of them. It stops early for two reasons only: an edge cannot be settled, or nodes were pruned one for
the other until the host could bear no more.
-/

namespace Dungeon

variable {α : Type}

namespace Plan

theorem outgoing_perm (p : Plan α) (id : String) :
    (p.outgoing id).Perm (p.graph.edges.filter fun e => e.source.node == id) :=
  sortBy_perm _ _

theorem mem_outgoing {p : Plan α} {id : String} {e : Edge α} :
    e ∈ p.outgoing id ↔ e ∈ p.graph.edges ∧ e.source.node = id := by
  rw [(p.outgoing_perm id).mem_iff, List.mem_filter, beq_iff_eq]

end Plan

/-- There are more nodes in a row than so many, each of which feeds the next one. -/
def Graph.DeeperThan (g : Graph α) (depth : Nat) : Prop :=
  ∃ chain : List String, depth < chain.length ∧ chain ⊆ g.nodeIds ∧ chain.IsChain g.Feeds

/-- No way through an acyclic graph is longer than the graph. -/
theorem Graph.DeeperThan.lt_length {g : Graph α} {depth : Nat} (deeper : g.DeeperThan depth)
    (acyclic : WellFounded g.Feeds) : depth < g.nodeIds.length := by
  obtain ⟨chain, long, inside, linked⟩ := deeper
  have distinct : chain.Nodup := by
    have apart := (linked.imp fun _ _ => Relation.TransGen.single).pairwise
    refine apart.imp fun {a b} way same => ?_
    subst same
    exact acyclic.transGen.irrefl.irrefl a way
  exact long.trans_le (distinct.subperm inside).length_le

namespace Run

/-- From one state and the edges that are to be settled there to a later one. -/
inductive Settles (p : Plan α) :
    List (Delivery α) → Run α → List (Delivery α) → Run α → Prop
  | refl (work : List (Delivery α)) (r : Run α) : Settles p work r work r
  | step {d : Delivery α} {rest more work' : List (Delivery α)} {r next r' : Run α} :
      r.settle p d = .ok (next, more) → Settles p (more ++ rest) next work' r' →
      Settles p (d :: rest) r work' r'

/-- Why settling these edges stops in a state: the next edge cannot be settled, or nodes were pruned
one for the other, from the target of one of the edges on, and so many at once are too many. -/
inductive Stuck (p : Plan α) (nesting : Nat) (ds : List (Delivery α)) :
    List (Delivery α) → Run α → Fault → Prop
  | astray {d : Delivery α} {rest : List (Delivery α)} {r : Run α} {f : Fault} :
      r.settle p d = .error f → Stuck p nesting ds (d :: rest) r f
  | sunk {d : Delivery α} {below : List String} {work : List (Delivery α)} {r : Run α} :
      d ∈ ds → below.length = nesting →
      (d.1.target.node :: below).IsChain p.graph.Feeds →
      d.1.target.node :: below ⊆ r.pruned → Stuck p nesting ds work r .tooDeep

section
variable {p : Plan α} {ds es work work' rest more : List (Delivery α)} {d : Delivery α}
  {r r' r'' next : Run α} {nesting : Nat}

theorem Settles.trans (first : Settles p work r work' r')
    (second : Settles p work' r' ds r'') : Settles p work r ds r'' := by
  induction first with
  | refl => exact second
  | step settled _ ih => exact .step settled (ih second)

theorem Settles.single (settled : r.settle p d = .ok (next, more)) :
    Settles p (d :: rest) r (more ++ rest) next :=
  .step settled (.refl _ _)

/-- An edge that leads to no node is dropped. -/
theorem settle_none {e : Edge α} (found : r.progress.find? e.target.node = none)
    (f : Option (Fragment α)) : r.settle p (e, f) = .ok (r, []) := by
  have same : (r.update e.target.node fun g => { g with unsettled := g.unsettled - 1 }) = r := by
    rw [update, found]
  have stateless : r.state? e.target.node = none := by rw [state?, found, Option.map_none]
  simp only [settle, same, stateless]
  rfl

/-- Settling an edge prunes its target, or it prunes nothing and nothing follows. -/
theorem prunes_of_settle (settled : r.settle p d = .ok (next, more)) :
    (next.pruned = r.pruned ++ [d.1.target.node] ∧
        more = (p.outgoing d.1.target.node).map fun e => (e, none)) ∨
      (next.pruned = r.pruned ∧ more = []) := by
  obtain ⟨e, f⟩ := d
  cases found : r.progress.find? e.target.node with
  | none =>
    cases (settle_none found f).symm.trans settled
    exact .inr ⟨rfl, rfl⟩
  | some g =>
    cases settled_of_settle found settled with
    | pruned => exact .inl ⟨rfl, rfl⟩
    | late | early | waiting | ready => exact .inr ⟨rfl, rfl⟩

/-- No node is taken from the pruned ones. -/
theorem Settles.pruned_subset (settles : Settles p work r work' r') : r.pruned ⊆ r'.pruned := by
  induction settles with
  | refl => exact fun _ h => h
  | step settled _ ih =>
    rcases prunes_of_settle settled with ⟨grown, _⟩ | ⟨same, _⟩
    · rw [grown] at ih
      exact fun _ h => ih (List.mem_append_left _ h)
    · rwa [same] at ih

theorem Stuck.mono {f : Fault} (stuck : Stuck p nesting ds work r f) (subset : ds ⊆ es) :
    Stuck p nesting es work r f := by
  cases stuck with
  | astray failed => exact .astray failed
  | sunk mem long chain pruned => exact .sunk (subset mem) long chain pruned

/-- How settling some edges before others ends. -/
inductive Ending (p : Plan α) (nesting : Nat) (ds rest : List (Delivery α)) (r : Run α) :
    Except Fault (Run α) → Prop
  | settled {r' : Run α} : Settles p (ds ++ rest) r rest r' → Ending p nesting ds rest r (.ok r')
  | stopped {work' : List (Delivery α)} {r' : Run α} {f : Fault} :
      Settles p (ds ++ rest) r work' r' → Stuck p nesting ds work' r' f →
      Ending p nesting ds rest r (.error f)

/-- The edges are settled in turn if what each pruned node leads to is settled before the next. -/
theorem ending_settleEach {cascade : List (Delivery α) → Run α → Except Fault (Run α)}
    (nested : ∀ (d : Delivery α) (r next : Run α) more, r.settle p d = .ok (next, more) →
      next.pruned = r.pruned ++ [d.1.target.node] →
      more = (p.outgoing d.1.target.node).map (fun e => (e, none)) → ∀ rest,
      (∃ r', cascade more next = .ok r' ∧ Settles p (more ++ rest) next rest r') ∨
        ∃ work' r' f, cascade more next = .error f ∧
          Settles p (more ++ rest) next work' r' ∧ Stuck p nesting [d] work' r' f)
    (ds rest : List (Delivery α)) (r : Run α) :
    Ending p nesting ds rest r (settleEach p cascade ds r) := by
  induction ds generalizing r with
  | nil => exact .settled (.refl _ _)
  | cons d ds ih =>
    -- After the first edge the others are settled by induction, and both parts are put together.
    have goOn {s : Run α} (first : Settles p (d :: ds ++ rest) r (ds ++ rest) s) :
        Ending p nesting (d :: ds) rest r (settleEach p cascade ds s) := by
      generalize out : settleEach p cascade ds s = outcome
      have later := ih s
      rw [out] at later
      cases later with
      | settled others => exact .settled (first.trans others)
      | stopped others stuck =>
        exact .stopped (first.trans others) (stuck.mono (List.subset_cons_self _ _))
    rw [settleEach]
    cases settled : r.settle p d with
    | error f => exact .stopped (.refl _ _) (.astray settled)
    | ok out =>
      obtain ⟨next, more⟩ := out
      simp only [bind, Except.bind]
      rcases prunes_of_settle settled with ⟨grown, follows⟩ | ⟨same, rfl⟩
      · rw [if_pos (by simp [grown])]
        rcases nested d r next more settled grown follows (ds ++ rest) with
          ⟨s, done, below⟩ | ⟨work', s, f, failed, below, stuck⟩
        · rw [done]
          exact goOn ((Settles.single settled).trans below)
        · rw [failed]
          refine .stopped ((Settles.single settled).trans below) (stuck.mono ?_)
          exact List.cons_subset_cons _ (List.nil_subset _)
      · rw [if_neg (by simp [same])]
        exact goOn (Settles.single settled)

/-- All edges are settled, unless one cannot be or too many nodes are pruned one for the other. -/
theorem ending_settleAll (p : Plan α) (nesting : Nat) (ds rest : List (Delivery α)) (r : Run α) :
    Ending p nesting ds rest r (settleAll p nesting ds r) := by
  induction nesting generalizing ds rest r with
  | zero =>
    refine ending_settleEach (fun d r next more _ grown _ rest => .inr ?_) ds rest r
    refine ⟨_, next, _, rfl, .refl _ _, .sunk List.mem_cons_self rfl (.singleton _) ?_⟩
    simp [grown]
  | succ nesting ih =>
    refine ending_settleEach (fun d r next more _ grown follows rest => ?_) ds rest r
    have below := ih more rest next
    generalize settleAll p nesting more next = outcome at below
    cases below with
    | settled settles => exact .inl ⟨_, rfl, settles⟩
    | stopped settles stuck =>
      refine .inr ⟨_, _, _, rfl, settles, ?_⟩
      cases stuck with
      | astray failed => exact .astray failed
      | @sunk first below _ _ mem long chain pruned =>
        -- The chain is one node longer: the target of `d` was pruned before all these.
        have node : d.1.target.node ∈ next.pruned := by simp [grown]
        rw [follows] at mem
        obtain ⟨e, leaves, rfl⟩ := List.mem_map.1 mem
        obtain ⟨edge, source⟩ := Plan.mem_outgoing.1 leaves
        have longer : (d.1.target.node :: e.target.node :: below).IsChain p.graph.Feeds :=
          .cons_cons ⟨e, edge, source, rfl⟩ chain
        refine .sunk List.mem_cons_self (by simp [long]) longer ?_
        exact List.cons_subset.2 ⟨settles.pruned_subset node, pruned⟩

theorem settleAll_cases (p : Plan α) (nesting : Nat) (ds : List (Delivery α)) (r : Run α) :
    (∃ r', settleAll p nesting ds r = .ok r' ∧ Settles p ds r [] r') ∨
      ∃ work' r' f, settleAll p nesting ds r = .error f ∧ Settles p ds r work' r' ∧
        Stuck p nesting ds work' r' f := by
  have ending := ending_settleAll p nesting ds [] r
  generalize settleAll p nesting ds r = outcome at ending
  cases ending with
  | settled settles => exact .inl ⟨_, rfl, by simpa using settles⟩
  | stopped settles stuck => exact .inr ⟨_, _, _, rfl, by simpa using settles, stuck⟩

/-- What is settled at all is settled edge by edge. -/
theorem settles_of_settleAll (settled : settleAll p nesting ds r = .ok r') :
    Settles p ds r [] r' := by
  rcases settleAll_cases p nesting ds r with ⟨s, same, settles⟩ | ⟨_, _, _, failed, _⟩
  · cases same.symm.trans settled
    exact settles
  · cases failed.symm.trans settled

end

end Run

end Dungeon
