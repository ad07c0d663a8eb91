import Dungeon.Proofs.Equality
import Dungeon.Proofs.Fields
import Dungeon.Proofs.Work.Survival
import Mathlib.Data.List.Induction

/-!
# Merges of merges

Fragments that meet at a merge are joined in the order of its ports. It does not matter whether some of
them met before: what is gathered in parts, rooms, steps and variables alike, is what is gathered at once.
So a tree of merges gives the fragment that one wide merge of everything that flows into it gives.
-/

namespace Dungeon

section

variable {β : Type} {same : β → β → Bool}

/-- Gathering on from what was gathered on its own is gathering everything at once, provided that an
element that was put in early could as well be put in late. -/
theorem foldl_foldl {put : List β → β → List β} {I : List β → Prop} {P : β → Prop} (empty : I [])
    (kept : ∀ acc x, I acc → P x → I (put acc x))
    (late : ∀ acc x, I acc → P x → ∀ base, (put acc x).foldl put base = put (acc.foldl put base) x)
    {xs : List β} (fit : ∀ x ∈ xs, P x) (base : List β) :
    (xs.foldl put []).foldl put base = xs.foldl put base := by
  have invariant : I (xs.foldl put []) ∧
      (xs.foldl put []).foldl put base = xs.foldl put base := by
    induction xs using List.reverseRecOn with
    | nil => exact ⟨empty, rfl⟩
    | append_singleton xs x ih =>
      obtain ⟨gathered, together⟩ := ih fun y member => fit y (List.mem_append_left _ member)
      have last := fit x (by simp)
      rw [List.foldl_append, List.foldl_append, List.foldl_cons, List.foldl_nil]
      exact ⟨kept _ x gathered last, by rw [late _ x gathered last, together]; rfl⟩
  exact invariant.2

/-- Put an element at the end unless there is the same one. -/
def keep (same : β → β → Bool) (kept : List β) (x : β) : List β :=
  if kept.any (same x) then kept else kept ++ [x]

/-- What has been kept stays, and whatever is put in has the same element among the result. -/
theorem foldl_keep_any {acc : List β} {a : β} (member : a ∈ acc) (base : List β) :
    ∃ b ∈ acc.foldl (keep same) base, b = a ∨ same a b = true := by
  have stays {x : β} (ys base : List β) (there : x ∈ base) : x ∈ ys.foldl (keep same) base := by
    induction ys generalizing base with
    | nil => exact there
    | cons y rest ih =>
      refine ih _ ?_
      unfold keep
      split
      · exact there
      · exact List.mem_append_left _ there
  induction acc generalizing base with
  | nil => cases member
  | cons x rest ih =>
    rcases List.mem_cons.1 member with rfl | member
    · have put : ∃ b ∈ keep same base a, b = a ∨ same a b = true := by
        unfold keep
        split
        next found =>
          obtain ⟨b, there, equal⟩ := List.any_eq_true.1 found
          exact ⟨b, there, .inr equal⟩
        next => exact ⟨a, by simp, .inl rfl⟩
      obtain ⟨b, there, equal⟩ := put
      exact ⟨b, stays rest _ there, equal⟩
    · exact ih member _

/-- Which elements are kept does not depend on whether some were gathered before. -/
theorem foldl_keep_foldl (trans : ∀ a b c, same a b = true → same b c = true → same a c = true)
    (base xs : List β) : (xs.foldl (keep same) []).foldl (keep same) base = xs.foldl (keep same) base := by
  refine foldl_foldl (I := fun _ => True) (P := fun _ => True) trivial (fun _ _ _ _ => trivial) ?_
    (fun _ _ => trivial) base
  intro acc x _ _ base
  rw [keep]
  split
  next found =>
    obtain ⟨a, there, equal⟩ := List.any_eq_true.1 found
    obtain ⟨b, there', equal'⟩ := foldl_keep_any there base
    have reached : same x b = true := by
      rcases equal' with rfl | equal'
      · exact equal
      · exact trans x a b equal equal'
    rw [keep, if_pos (List.any_eq_true.2 ⟨b, there', reached⟩)]
  next => rw [List.foldl_append, List.foldl_cons, List.foldl_nil]

theorem eraseDups_eq_foldl [BEq β] [LawfulBEq β] (xs : List β) :
    xs.eraseDups = xs.foldl (keep (· == ·)) [] := by
  induction xs using List.reverseRecOn with
  | nil => rfl
  | append_singleton xs x ih =>
    rw [List.eraseDups_append, List.foldl_append, ← ih, List.foldl_cons, List.foldl_nil, keep]
    by_cases there : x ∈ xs
    · simp [List.removeAll, there]
    · simp [List.removeAll, there, List.eraseDups_cons]

end

/-- A merge node and the port through which its fragment goes on. -/
structure Junction (α : Type) where
  job : Job α
  port : String
  there : port ∈ job.node.outputs.map Port.id

/-- Fragments that flow together through merge nodes, in the order of the input ports. Something flows
into every node. -/
inductive Confluence (α : Type)
  | arrival (f : Fragment α)
  | node (m : Junction α) (first : Confluence α) (rest : List (Confluence α))

namespace Confluence

variable {α : Type}

mutual

/-- What flows in, in order. -/
def arrivals : Confluence α → List (Fragment α)
  | arrival f => [f]
  | node _ first rest => first.arrivals ++ (allArrivals rest).flatten

def allArrivals : List (Confluence α) → List (List (Fragment α))
  | [] => []
  | t :: rest => t.arrivals :: allArrivals rest

end

end Confluence

variable {α : Type} [Scalar α]

namespace Fields

/-- Extending by what was entered on its own is entering everything at once. -/
theorem extend_ofPairs {pairs : Fields α} (named : Bindings.Named pairs) (base : Fields α) :
    base.extend (ofPairs pairs) = base.extend pairs := by
  refine foldl_foldl (I := Proper) (P := fun p => ∃ name, p.1 = .text name) ⟨?_, .nil⟩ ?_ ?_ named base
  · exact fun p member => nomatch member
  · rintro acc ⟨_, v⟩ proper ⟨s, rfl⟩
    exact proper.insert s v
  · rintro acc ⟨_, v⟩ proper ⟨s, rfl⟩ base
    exact extend_insert proper s v base

end Fields

theorem PathStep.same_trans [Equality α] (s t u : PathStep α) (first : s.same t = true)
    (second : t.same u = true) : s.same u = true := by
  simp only [PathStep.same, Bool.and_eq_true, Bool.or_eq_true, beq_iff_eq] at *
  obtain ⟨⟨node, index⟩, weight⟩ := first
  obtain ⟨⟨node', index'⟩, weight'⟩ := second
  refine ⟨⟨node.trans node', index.trans index'⟩, ?_⟩
  rcases weight with equal | ⟨⟨undefined, undefined'⟩, origin⟩
  · rcases weight' with equal' | ⟨⟨undefined, _⟩, _⟩
    · exact .inl (Equality.trans equal equal')
    · rw [Equality.defined_right equal] at undefined
      cases undefined
  · rcases weight' with equal' | ⟨⟨_, undefined''⟩, origin'⟩
    · rw [Equality.defined_left equal'] at undefined'
      cases undefined'
    · exact .inr ⟨⟨undefined, undefined''⟩, origin.trans origin'⟩

namespace Fragment

/-- What is gathered from fragments, for a fragment that stands where `place` does. -/
def gathered (place : Fragment α) (all : List (Fragment α)) : Fragment α :=
  let rooms := (all.flatMap anchors).foldl (keep (· == ·)) []
  { anchor := rooms.head?
    joined := rooms
    cursor := place.cursor
    direction := place.direction
    lateral := 0.0
    vars := Fields.ofPairs (all.flatMap vars)
    path := (all.flatMap path).foldl (keep PathStep.same) [] }

theorem join_eq (first : Fragment α) (rest : List (Fragment α)) :
    join first rest = gathered first (first :: rest) := by
  have vars : (first :: rest).foldl (fun fields f => Fields.extend fields f.vars) [] =
      Fields.ofPairs ((first :: rest).flatMap vars) := by
    rw [Fields.ofPairs, Fields.extend, List.foldl_flatMap]
    rfl
  have path : (first :: rest).foldl (fun path f => addSteps path f.path) [] =
      ((first :: rest).flatMap path).foldl (keep PathStep.same) [] := by
    rw [List.foldl_flatMap]
    rfl
  rw [join, gathered, vars, path, eraseDups_eq_foldl]

theorem merge_eq_gathered (f : Fragment α) {rest : List (Fragment α)} (more : rest ≠ []) :
    merge (f :: rest) = .ok (gathered f (f :: rest)) := by
  cases rest with
  | nil => exact absurd rfl more
  | cons g rest => rw [merge, join_eq]

/-- The rooms that met are what the next room is connected to. -/
theorem anchors_gathered (place : Fragment α) (all : List (Fragment α)) :
    (gathered place all).anchors = (all.flatMap anchors).foldl (keep (· == ·)) [] := by
  rw [anchors]
  split
  next none_met =>
    have rooms : (all.flatMap anchors).foldl (keep (· == ·)) [] = [] := List.isEmpty_iff.1 none_met
    simp [gathered, rooms]
  next => rfl

theorem gathered_congr (place : Fragment α) {all all' : List (Fragment α)}
    (rooms : (all.flatMap anchors).foldl (keep (· == ·)) [] =
      (all'.flatMap anchors).foldl (keep (· == ·)) [])
    (vars : Fields.ofPairs (all.flatMap vars) = Fields.ofPairs (all'.flatMap Fragment.vars))
    (path : (all.flatMap path).foldl (keep PathStep.same) [] =
      (all'.flatMap Fragment.path).foldl (keep PathStep.same) []) :
    gathered place all = gathered place all' := by
  rw [gathered, gathered, rooms, vars, path]

/-- Among other fragments, what was gathered from some is as good as these. -/
theorem gathered_gathered [Equality α] (place first : Fragment α) {ys : List (Fragment α)}
    (named : ∀ f ∈ ys, Bindings.Named f.vars) (xs zs : List (Fragment α)) :
    gathered place (xs ++ gathered first ys :: zs) = gathered place (xs ++ ys ++ zs) := by
  have rooms : ((xs ++ gathered first ys :: zs).flatMap anchors).foldl (keep (· == ·)) [] =
      ((xs ++ ys ++ zs).flatMap anchors).foldl (keep (· == ·)) [] := by
    have trans (a b c : String) (hab : (a == b) = true) (hbc : (b == c) = true) : (a == c) = true := by
      simp_all
    simp only [List.flatMap_append, List.flatMap_cons, List.foldl_append, anchors_gathered,
      foldl_keep_foldl trans]
  have path : ((xs ++ gathered first ys :: zs).flatMap path).foldl (keep PathStep.same) [] =
      ((xs ++ ys ++ zs).flatMap path).foldl (keep PathStep.same) [] := by
    have own : (gathered first ys).path = (ys.flatMap Fragment.path).foldl (keep PathStep.same) [] := rfl
    simp only [List.flatMap_append, List.flatMap_cons, List.foldl_append, own,
      foldl_keep_foldl PathStep.same_trans]
  have vars : Fields.ofPairs ((xs ++ gathered first ys :: zs).flatMap vars) =
      Fields.ofPairs ((xs ++ ys ++ zs).flatMap vars) := by
    have own : (gathered first ys).vars = Fields.ofPairs (ys.flatMap Fragment.vars) := rfl
    have names : Bindings.Named (ys.flatMap Fragment.vars) := by
      intro p member
      obtain ⟨f, arrived, mine⟩ := List.mem_flatMap.1 member
      exact named f arrived p mine
    have entered := Fields.extend_ofPairs names
    simp only [Fields.ofPairs, Fields.extend] at own entered ⊢
    simp only [List.flatMap_append, List.flatMap_cons, List.foldl_append, own, entered]
  exact gathered_congr place rooms vars path

/-- A merge of some of the fragments, in their place, merges to the same. -/
theorem merge_append_merge [Equality α] (xs zs : List (Fragment α)) {ys : List (Fragment α)}
    (arrived : ys ≠ []) (named : ∀ f ∈ ys, Bindings.Named f.vars) :
    ∃ m, merge ys = .ok m ∧ merge (xs ++ m :: zs) = merge (xs ++ ys ++ zs) := by
  obtain ⟨y, rest, rfl⟩ := List.exists_cons_of_ne_nil arrived
  cases rest with
  | nil => exact ⟨y, rfl, by simp⟩
  | cons y' rest =>
    refine ⟨_, merge_eq_gathered y (List.cons_ne_nil _ _), ?_⟩
    have flat (place : Fragment α) := gathered_gathered place y named xs zs
    cases xs with
    | nil =>
      cases zs with
      | nil => exact (List.append_nil _).symm ▸ (merge_eq_gathered y (List.cons_ne_nil _ _)).symm
      | cons z zs =>
        rw [List.nil_append, merge_eq_gathered _ (List.cons_ne_nil _ _)]
        show _ = merge (y :: (y' :: rest ++ z :: zs))
        rw [merge_eq_gathered _ (by simp)]
        exact congrArg Except.ok (flat y)
    | cons x xs =>
      rw [List.cons_append, merge_eq_gathered _ (by simp), List.cons_append, List.cons_append,
        merge_eq_gathered _ (by simp)]
      exact congrArg Except.ok (flat x)

theorem exists_merge {all : List (Fragment α)} (arrived : all ≠ []) : ∃ f, merge all = .ok f := by
  obtain ⟨first, rest, rfl⟩ := List.exists_cons_of_ne_nil arrived
  cases rest with
  | nil => exact ⟨first, rfl⟩
  | cons g rest => exact ⟨_, rfl⟩

/-- Merges of groups merge to what everything in the groups does. -/
theorem merge_flatten [Equality α] {groups : List (List (Fragment α))} {ms : List (Fragment α)}
    (merged : List.Forall₂ (fun g m => g ≠ [] ∧ merge g = .ok m) groups ms)
    (named : ∀ f ∈ groups.flatten, Bindings.Named f.vars) (xs : List (Fragment α)) :
    merge (xs ++ ms) = merge (xs ++ groups.flatten) := by
  induction merged generalizing xs with
  | nil => rfl
  | @cons g m groups ms first _ ih =>
    rw [List.flatten_cons] at named ⊢
    obtain ⟨own, others⟩ := List.forall_mem_append.1 named
    obtain ⟨m', merged, same⟩ := merge_append_merge xs ms first.1 own
    obtain rfl : m' = m := Except.ok.inj (merged.symm.trans first.2)
    rw [same, ih others (xs ++ g), List.append_assoc]

end Fragment

variable {σ : Type}

/-- A merge node sends what arrives, merged, through all its ports. -/
theorem Job.merge_eq_ok (j : Job α) {incoming : List (Fragment α)} {f : Fragment α}
    (merged : Fragment.merge incoming = .ok f) (s : Site σ α) :
    j.merge incoming s = .ok (j.everywhere f) s := by
  have arrived : ¬ incoming.isEmpty = true := by
    rw [List.isEmpty_iff]
    rintro rfl
    cases merged
  have single : j.single incoming s = .ok f s := by
    rw [single, if_neg arrived]
    exact Work.lift_eq_ok.2 ⟨merged, rfl⟩
  exact bind_eq_ok.2 ⟨f, s, single, rfl⟩

namespace Confluence

mutual

/-- What flows out when the nodes work one after another. -/
def outflow : Confluence α → Work σ α (Option (Fragment α))
  | arrival f => pure (some f)
  | node m first rest => do
    let incoming := (← first.outflow).toList ++ (← outflows rest)
    return ((← m.job.merge incoming).find? m.port).join

def outflows : List (Confluence α) → Work σ α (List (Fragment α))
  | [] => pure []
  | t :: rest => do return (← t.outflow).toList ++ (← outflows rest)

end

omit [Scalar α] in
theorem arrivals_ne_nil (t : Confluence α) : t.arrivals ≠ [] := by
  cases t with
  | arrival f => simp [arrivals]
  | node m first rest => simp [arrivals, arrivals_ne_nil first]

mutual

/-- A tree of merge nodes lets out what merging everything that flows in gives. -/
theorem outflow_eq [Equality α] (t : Confluence α)
    (named : ∀ f ∈ t.arrivals, Bindings.Named f.vars) (s : Site σ α) :
    ∃ f, t.outflow s = .ok (some f) s ∧ Fragment.merge t.arrivals = .ok f := by
  cases t with
  | arrival f => exact ⟨f, by rw [outflow]; rfl, by rw [arrivals]; rfl⟩
  | node m first rest =>
    rw [arrivals] at named ⊢
    obtain ⟨own, others⟩ := List.forall_mem_append.1 named
    obtain ⟨g, flowed, merged⟩ := outflow_eq first own s
    obtain ⟨gs, flowed', merged'⟩ := outflows_eq rest others s
    -- The groups are what flows into the first part, and what flows into each of the others.
    have groups : List.Forall₂ (fun g m => g ≠ [] ∧ Fragment.merge g = .ok m)
        (first.arrivals :: allArrivals rest) (g :: gs) := .cons ⟨first.arrivals_ne_nil, merged⟩ merged'
    have flat : Fragment.merge (g :: gs) =
        Fragment.merge (first.arrivals ++ (allArrivals rest).flatten) :=
      Fragment.merge_flatten groups named []
    obtain ⟨f, whole⟩ := Fragment.exists_merge (List.cons_ne_nil g gs)
    refine ⟨f, ?_, flat ▸ whole⟩
    rw [outflow]
    refine bind_eq_ok.2 ⟨some g, s, flowed, bind_eq_ok.2 ⟨gs, s, flowed', ?_⟩⟩
    refine bind_eq_ok.2 ⟨_, s, m.job.merge_eq_ok whole s, ?_⟩
    exact pure_eq_ok.2 ⟨Job.passes_everywhere f m.there, rfl⟩

theorem outflows_eq [Equality α] (ts : List (Confluence α))
    (named : ∀ f ∈ (allArrivals ts).flatten, Bindings.Named f.vars) (s : Site σ α) :
    ∃ fs, outflows ts s = .ok fs s ∧
      List.Forall₂ (fun g m => g ≠ [] ∧ Fragment.merge g = .ok m) (allArrivals ts) fs := by
  cases ts with
  | nil => exact ⟨[], by rw [outflows]; rfl, by rw [allArrivals]; exact .nil⟩
  | cons t rest =>
    rw [allArrivals] at named ⊢
    obtain ⟨own, others⟩ := List.forall_mem_append.1 named
    obtain ⟨f, flowed, merged⟩ := outflow_eq t own s
    obtain ⟨fs, flowed', merged'⟩ := outflows_eq rest others s
    refine ⟨f :: fs, ?_, .cons ⟨t.arrivals_ne_nil, merged⟩ merged'⟩
    rw [outflows]
    exact bind_eq_ok.2 ⟨some f, s, flowed, bind_eq_ok.2 ⟨fs, s, flowed', rfl⟩⟩

end

end Confluence

/-- Merging some of the fragments before the others makes no difference, and a tree of merge nodes lets
out what one merge node does that gets everything that flows into the tree. -/
theorem Fragment.merge_nested [Equality α] (xs zs : List (Fragment α)) {ys : List (Fragment α)}
    (arrived : ys ≠ []) (named : ∀ f ∈ ys, Bindings.Named f.vars) (t : Confluence α)
    (names : ∀ f ∈ t.arrivals, Bindings.Named f.vars) (j : Job α) (s : Site σ α) :
    (∃ m f, merge ys = .ok m ∧ merge (xs ++ [m] ++ zs) = .ok f ∧ merge (xs ++ ys ++ zs) = .ok f) ∧
      ∃ f, t.outflow s = .ok (some f) s ∧ j.merge t.arrivals s = .ok (j.everywhere f) s := by
  constructor
  · obtain ⟨m, merged, same⟩ := merge_append_merge xs zs arrived named
    have some_fragment : xs ++ m :: zs ≠ [] := by simp
    obtain ⟨f, whole⟩ := exists_merge some_fragment
    exact ⟨m, f, merged, by simpa using whole, same ▸ whole⟩
  · obtain ⟨f, flowed, merged⟩ := t.outflow_eq names s
    exact ⟨f, flowed, j.merge_eq_ok merged s⟩

namespace Crossing

/-- A fragment that comes from some rooms, by paths of these weights. -/
def fragment (rooms : List String) (steps : List (String × Float)) (vars : List (String × String)) :
    Fragment Float where
  anchor := rooms.head?
  joined := rooms
  cursor := ⟨rooms.length.toFloat, 0.0⟩
  lateral := 15.0
  vars := .ofTexts (vars.map fun p => (p.1, .text p.2))
  path := steps.map fun p => { nodeId := p.1, index := 0, weight := p.2 }

def north : Fragment Float := fragment ["gate"] [("fork", 0.5)] [("danger", "low")]

/-- Two fragments that share a room, a step and a variable. -/
def east : Fragment Float := fragment ["hall", "gate"] [("fork", 0.5), ("stair", 1.0)] [("gold", "some")]

def west : Fragment Float := fragment ["crypt", "hall"] [("stair", 1.0)] [("gold", "much")]

def south : Fragment Float := fragment [] [("fork", 0.25)] [("danger", "high")]

def job : Job Float where
  node := { id := "join", data := .merge {}, position := ⟨.whole 0, .whole 0⟩
            inputs := [], outputs := [{ id := "out", side := .output }] }
  parameters := []
  retries := .int 8

/-- East and west meet first, then all four. -/
def tree : Confluence Float :=
  .node ⟨job, "out", by decide⟩ (.arrival north)
    [.node ⟨job, "out", by decide⟩ (.arrival east) [.arrival west], .arrival south]

def site : Site Unit Float where
  draft := { startOffset := ⟨0.0, 0.0⟩ }
  stream := ()

theorem named_fragment (rooms : List String) (steps : List (String × Float))
    (vars : List (String × String)) : Bindings.Named (fragment rooms steps vars).vars := by
  intro p member
  obtain ⟨q, -, rfl⟩ := List.mem_map.1 member
  exact ⟨q.1, rfl⟩

theorem named_arrivals : ∀ f ∈ tree.arrivals, Bindings.Named f.vars := by
  have all : tree.arrivals = [north, east, west, south] := rfl
  rw [all]
  rintro f (_ | ⟨_, _ | ⟨_, _ | ⟨_, _ | ⟨_, h⟩⟩⟩⟩)
  · exact named_fragment _ _ _
  · exact named_fragment _ _ _
  · exact named_fragment _ _ _
  · exact named_fragment _ _ _
  · cases h

end Crossing

/-- Four fragments, of which the middle two have met before: each room and each step is there once, and
of two values of a variable the later one. -/
theorem Fragment.merge_nested_crossing :
    [Crossing.east, Crossing.west] ≠ [] ∧
    (∀ f ∈ [Crossing.east, Crossing.west], Bindings.Named f.vars) ∧
    (∀ f ∈ Crossing.tree.arrivals, Bindings.Named f.vars) ∧
    (∃ m f, merge [Crossing.east, Crossing.west] = .ok m ∧
      merge [Crossing.north, m, Crossing.south] = .ok f ∧
      merge Crossing.tree.arrivals = .ok f ∧
      (f.joined, f.path.map PathStep.nodeId, f.vars.map fun p => (p.1.text?, p.2.text?)) =
        (["gate", "hall", "crypt"], ["fork", "stair", "fork"],
          [(some "danger", some "high"), (some "gold", some "much")])) ∧
    ∃ f, Crossing.tree.outflow Crossing.site = .ok (some f) Crossing.site ∧
      Crossing.job.merge Crossing.tree.arrivals Crossing.site =
        .ok (Crossing.job.everywhere f) Crossing.site := by
  have names := Crossing.named_arrivals
  have named : ∀ f ∈ [Crossing.east, Crossing.west], Bindings.Named f.vars :=
    fun f member => names f (List.mem_append_left [Crossing.south] (List.mem_cons_of_mem _ member))
  have arrived : [Crossing.east, Crossing.west] ≠ [] := List.cons_ne_nil _ _
  obtain ⟨⟨m, f, first, again, whole⟩, flow⟩ := merge_nested [Crossing.north] [Crossing.south]
    arrived named Crossing.tree names Crossing.job Crossing.site
  have facts : (merge Crossing.tree.arrivals).toOption.map (fun f =>
      (f.joined, f.path.map PathStep.nodeId, f.vars.map fun p => (p.1.text?, p.2.text?))) =
      some (["gate", "hall", "crypt"], ["fork", "stair", "fork"],
        [(some "danger", some "high"), (some "gold", some "much")]) := by
    decide +kernel
  obtain ⟨g, merged, read⟩ := except_toOption_map_eq_some.1 facts
  cases merged.symm.trans whole
  exact ⟨arrived, named, names, ⟨m, f, first, again, whole, read⟩, flow⟩

end Dungeon
