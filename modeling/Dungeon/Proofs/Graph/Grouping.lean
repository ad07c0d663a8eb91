import Dungeon.Proofs.Graph.WellFormed
import Dungeon.Proofs.Failing
import Dungeon.Graph.Reader

/-!
# When validation returns

The errors of a graph are found whatever its groups are. The groups come in when warnings are
collected: a group may name its nodes by anything, and where one of these ids is not a text, there is
no report. Otherwise groups only add warnings of their own.
-/

namespace Dungeon

variable {α : Type}

namespace Group

/-- All ids of the group are texts. -/
def Lettered (group : Group α) : Prop := ∀ id ∈ group.nodeIds, ∃ s, id = .text s

end Group

namespace Graph

/-- The graph without its groups. -/
def ungrouped (g : Graph α) : Graph α := { g with groups := [] }

theorem failsOnly_key (v : Value α) : FailsOnly (fun f => f.kind = .type) v.key := by
  unfold Value.key
  split
  · exact .error rfl
  · exact .ok v

theorem eq_of_key {v w : Value α} (kept : v.key = .ok w) : w = v := by
  unfold Value.key at kept
  split at kept
  · cases kept
  · cases kept
    rfl

theorem failsOnly_missingIds (known : List String) (ids : List (Value α)) :
    FailsOnly (fun f => f.kind = .type) (missingIds known ids) := by
  induction ids with
  | nil => exact .ok []
  | cons id rest ih =>
    cases id with
    | text s => exact ih.bind fun missing _ => .ok _
    | _ => exact (failsOnly_key _).bind fun id _ => ih.bind fun missing _ => .ok (id :: missing)

theorem failsOnly_textsFrom (i : Nat) (ids : List (Value α)) :
    FailsOnly (fun f => f.kind = .type) (textsFrom i ids) := by
  induction ids generalizing i with
  | nil => exact .ok []
  | cons id rest ih =>
    cases id with
    | text s => exact (ih (i + 1)).bind fun texts _ => .ok (s :: texts)
    | _ => exact .error rfl

theorem failsOnly_groupWarning (g : Graph α) (group : Group α) :
    FailsOnly (fun f => f.kind = .type) (g.groupWarning group) :=
  (failsOnly_missingIds _ _).bind fun missing _ =>
    .ite (.ok []) ((failsOnly_textsFrom 0 missing).bind fun _ _ => .ok _)

/-- An id that is not a text is the id of no node. -/
theorem text_or_missing {known : List String} {ids missing : List (Value α)}
    (found : missingIds known ids = .ok missing) :
    ∀ id ∈ ids, (∃ s, id = .text s) ∨ id ∈ missing := by
  induction ids generalizing missing with
  | nil => exact fun id mem => absurd mem List.not_mem_nil
  | cons first rest ih =>
    have split : ∃ others, missingIds known rest = .ok others ∧ others ⊆ missing ∧
        ((∃ s, first = .text s) ∨ first ∈ missing) := by
      cases first with
      | text s =>
        obtain ⟨others, later, found⟩ := except_bind_eq_ok.1 found
        refine ⟨others, later, ?_, .inl ⟨s, rfl⟩⟩
        cases found
        split
        · exact List.Subset.refl _
        · exact List.subset_cons_self _ _
      | _ =>
        obtain ⟨key, kept, found⟩ := except_bind_eq_ok.1 found
        obtain ⟨others, later, found⟩ := except_bind_eq_ok.1 found
        cases found
        refine ⟨others, later, List.subset_cons_self _ _, .inr ?_⟩
        rw [eq_of_key kept]
        exact List.mem_cons_self
    obtain ⟨others, later, kept, own⟩ := split
    intro id mem
    obtain rfl | mem := List.mem_cons.1 mem
    · exact own
    · exact (ih later id mem).imp_right fun mem => kept mem

theorem texts_of_textsFrom {i : Nat} {ids : List (Value α)} {texts : List String}
    (done : textsFrom i ids = .ok texts) : ∀ id ∈ ids, ∃ s, id = .text s := by
  induction ids generalizing i texts with
  | nil => exact fun id mem => absurd mem List.not_mem_nil
  | cons first rest ih =>
    cases first with
    | text s =>
      obtain ⟨others, later, _⟩ := except_bind_eq_ok.1 done
      intro id mem
      obtain rfl | mem := List.mem_cons.1 mem
      · exact ⟨s, rfl⟩
      · exact ih later id mem
    | _ => cases done

theorem lettered_of_groupWarning {g : Graph α} {group : Group α} {found : List Violation}
    (done : g.groupWarning group = .ok found) :
    group.Lettered ∧ ∀ w ∈ found, w.code = .groupMissingNodes := by
  obtain ⟨missing, looked, done⟩ := except_bind_eq_ok.1 done
  have known := text_or_missing looked
  split at done
  next none =>
    cases done
    refine ⟨fun id mem => (known id mem).resolve_right ?_, fun w mem => absurd mem List.not_mem_nil⟩
    rw [List.isEmpty_iff.1 none]
    exact List.not_mem_nil
  next =>
    obtain ⟨texts, joined, done⟩ := except_bind_eq_ok.1 done
    cases done
    constructor
    · exact fun id mem => (known id mem).elim (fun text => text) (texts_of_textsFrom joined id)
    · intro w mem
      rw [List.mem_singleton.1 mem]

/-- Without its groups a graph always has a report. With them it has the same errors, and warnings
about groups in front of the same warnings; or an id in a group is not a text, and there is no
report. -/
theorem validate_grouped (g : Graph α) :
    ∃ report, g.ungrouped.validate = .ok report ∧
      ((∃ more, g.validate = .ok ⟨report.errors, more ++ report.warnings⟩ ∧
          (∀ w ∈ more, w.code = .groupMissingNodes) ∧ ∀ group ∈ g.groups, group.Lettered) ∨
        ∃ f, g.validate = .error f ∧ f.kind = .type ∧ ∃ group ∈ g.groups, ¬ group.Lettered) := by
  refine ⟨⟨g.errors, g.danglingOutputs g.resolved⟩, rfl, ?_⟩
  unfold validate warnings
  cases read : g.groups.mapM g.groupWarning with
  | ok found =>
    have each := forall₂_mapM read
    refine .inl ⟨found.flatten, rfl, fun w mem => ?_, fun group mem => ?_⟩
    · obtain ⟨own, mem, inside⟩ := List.mem_flatten.1 mem
      obtain ⟨group, _, done⟩ := exists_of_mem_right each mem
      exact (lettered_of_groupWarning done).2 w inside
    · obtain ⟨own, _, done⟩ := exists_of_mem_left each mem
      exact (lettered_of_groupWarning done).1
  | error f =>
    refine .inr ⟨f, rfl, FailsOnly.mapM (fun group _ => g.failsOnly_groupWarning group) f read, ?_⟩
    by_contra none
    have all : ∀ group ∈ g.groups, group.Lettered := by
      intro group mem
      by_contra unlettered
      exact none ⟨group, mem, unlettered⟩
    obtain ⟨found, done⟩ := mapM_ok fun group mem => groupWarning_ok (g := g) (all group mem)
    rw [done] at read
    cases read

namespace Numbered

/-- An exit from the start, and a group that names a node by a number. -/
def raw : Value Float :=
  .record [
    ("nodes", .list [
      .record [("id", .text "start"), ("type", .text "start")],
      .record [("id", .text "exit"), ("type", .text "output")]]),
    ("edges", .list [.record [("source", ending "start" "out"), ("target", ending "exit" "in")]]),
    ("groups", .list [.record [("id", .text "aside"), ("nodeIds", .list [.int 5])]])]
where
  ending (node port : String) : Value Float :=
    .record [("nodeId", .text node), ("portId", .text port)]

end Numbered

/-- A graph is read whose group names a node by a number, and it has no report; without the group it
is valid. -/
theorem validate_numbered :
    ∃ g, Graph.read Numbered.raw = .ok g ∧ g.validate = .error (.notJoinable 0 "int") ∧
      g.ungrouped.validate = .ok ⟨[], []⟩ :=
  ⟨_, rfl, rfl, rfl⟩

end Graph

end Dungeon
