import Mathlib.Data.Finset.Card
import Mathlib.Data.List.Induction
import Wiring.Proofs.PublishedScopes

/-!
# Groups and what was pushed

Groups are made by pushing records to scopes, one after the other. They tell all that was pushed but
how the scopes took turns: which scopes there are, which of two was used first, and what was pushed
to each.

* `pairwise_idxOf_eraseDups`: the first occurrences of the members of a list;
* `ScopeGroups.ofPushes`, `ScopeGroups.recordsOf`: the groups that pushes make, and the records that
  they push to one scope;
* `ScopeGroups.push_tabulate`, `ScopeGroups.ofPushes_eq`: one push more, and all of them;
* `ScopeGroups.get?_eq_some_iff`: what is found is what stands in the list;
* **`ScopeGroups.ofPushes_exact`**: the scopes, their number and their order, and what is found.
-/

namespace Wiring

/-- Members that stand before others, each once, occur before them. -/
theorem pairwise_idxOf_eraseDups {α : Type} [DecidableEq α] (list : List α) :
    list.eraseDups.Pairwise fun a b => list.idxOf a < list.idxOf b := by
  induction list using List.reverseRecOn with
  | nil => exact .nil
  | append_singleton rest x ih =>
    have hold : rest.eraseDups.Pairwise
        fun a b => (rest ++ [x]).idxOf a < (rest ++ [x]).idxOf b := by
      refine ih.imp_of_mem fun ha hb hlt => ?_
      rwa [List.idxOf_append_of_mem (List.mem_eraseDups.1 ha),
        List.idxOf_append_of_mem (List.mem_eraseDups.1 hb)]
    rw [List.eraseDups_append]
    by_cases hx : x ∈ rest
    · simpa [List.removeAll, hx] using hold
    · have hnew : ([x].removeAll rest).eraseDups = [x] := by
        simp [List.removeAll, hx, List.eraseDups_cons]
      rw [hnew]
      refine List.pairwise_append.2 ⟨hold, List.pairwise_singleton _ x, fun a ha b hb => ?_⟩
      have ha := List.mem_eraseDups.1 ha
      rw [List.mem_singleton.1 hb, List.idxOf_append_of_mem ha, List.idxOf_append_of_notMem hx]
      exact Nat.lt_add_right _ (List.idxOf_lt_length_of_mem ha)

namespace ScopeGroups

variable {α : Type}

/-- The groups that pushes make, each of a record to a scope. -/
def ofPushes (pushes : List (QualifiedName × α)) : ScopeGroups α :=
  pushes.foldl (fun groups entry => groups.push entry.1 entry.2) .empty

/-- The records that are pushed to a scope. -/
def recordsOf (pushes : List (QualifiedName × α)) (scope : QualifiedName) : List α :=
  (pushes.filter (·.1 = scope)).map (·.2)

variable {pushes : List (QualifiedName × α)} {scope : QualifiedName}

theorem recordsOf_eq_nil_iff : recordsOf pushes scope = [] ↔ scope ∉ pushes.map (·.1) := by
  rw [recordsOf, List.map_eq_nil_iff, List.filter_eq_nil_iff]
  constructor
  · intro h hscope
    obtain ⟨entry, hentry, rfl⟩ := List.mem_map.1 hscope
    exact h entry hentry (decide_eq_true rfl)
  · intro h entry hentry hscope
    exact h (List.mem_map.2 ⟨entry, hentry, of_decide_eq_true hscope⟩)

/-- **One push more**: the scope is appended unless it has a group, and its records get one more. -/
theorem push_tabulate (pushes : List (QualifiedName × α)) (entry : QualifiedName × α) :
    push ⟨tabulate (pushes.map (·.1)).eraseDups (recordsOf pushes)⟩ entry.1 entry.2 =
      ⟨tabulate ((pushes ++ [entry]).map (·.1)).eraseDups (recordsOf (pushes ++ [entry]))⟩ := by
  have hnew : entry.1 ∉ (pushes.map (·.1)).eraseDups → recordsOf pushes entry.1 = [] := by
    rw [List.mem_eraseDups]
    exact recordsOf_eq_nil_iff.2
  have hscopes : addNew (pushes.map (·.1)).eraseDups [entry.1] =
      ((pushes ++ [entry]).map (·.1)).eraseDups := by
    rw [← distinct_eq_eraseDups, ← distinct_eq_eraseDups, distinct, distinct, ← addNew_append,
      List.map_append, List.map_singleton]
  rw [push, pushTo_tabulate entry.2 (nodup_eraseDups _) hnew, hscopes]
  congr 2
  funext scope
  by_cases hscope : scope = entry.1
  · subst hscope
    simp [recordsOf]
  · simp [recordsOf, hscope, Ne.symm hscope]

/-- The groups of pushes are those of their scopes, in the order of first occurrence, with the
records of each. -/
theorem ofPushes_eq (pushes : List (QualifiedName × α)) :
    ofPushes pushes = ⟨tabulate (pushes.map (·.1)).eraseDups (recordsOf pushes)⟩ := by
  induction pushes using List.reverseRecOn with
  | nil => rfl
  | append_singleton pushes entry ih =>
    rw [← push_tabulate, ← ih, ofPushes, List.foldl_append]
    rfl

/-- What is found for a scope is what stands beside it in the list of groups, if no two of them have
one scope. -/
theorem get?_eq_some_iff {groups : ScopeGroups α} (h : groups.scopes.Nodup) {records : List α} :
    groups.get? scope = some records ↔ (scope, records) ∈ groups.groups := by
  rw [get?, List.lookup_eq_some_iff]
  constructor
  · rintro ⟨before, after, hgroups, -⟩
    simp [hgroups]
  · intro hmem
    obtain ⟨before, after, hgroups⟩ := List.append_of_mem hmem
    refine ⟨before, after, hgroups, fun group hgroup => bne_iff_ne.2 ?_⟩
    rw [scopes, hgroups, List.map_append, List.map_cons] at h
    have hbefore : group.1 ∈ before.map (·.1) := List.mem_map.2 ⟨group, hgroup, rfl⟩
    exact ((List.nodup_append.1 h).2.2 _ hbefore _ List.mem_cons_self).symm

/-- **Groups represent the pushes that made them.** The scopes are distinct, they are those that
records were pushed to, and they stand in the order of their first pushes; no group is empty, and
there are as many as there are different scopes. What is found for a scope is what was pushed to it,
in this order, or nothing if it was never used; and it is what stands beside the scope in the list
of groups. -/
theorem ofPushes_exact (pushes : List (QualifiedName × α)) :
    let groups := ofPushes pushes
    let used := pushes.map (·.1)
    groups.scopes.Nodup ∧
    groups.scopes.Pairwise (fun a b => used.idxOf a < used.idxOf b) ∧
    (∀ scope, scope ∈ groups.scopes ↔ scope ∈ used) ∧
    (∀ group ∈ groups.groups, group.2 ≠ []) ∧
    groups.size = used.toFinset.card ∧
    (∀ scope, groups.get? scope = if scope ∈ used then
      some ((pushes.filter (·.1 = scope)).map (·.2)) else none) ∧
    ∀ scope records, groups.get? scope = some records ↔ (scope, records) ∈ groups.groups := by
  intro groups used
  have hgroups : groups = ⟨tabulate used.eraseDups (recordsOf pushes)⟩ := ofPushes_eq pushes
  have hscopes : groups.scopes = used.eraseDups := by
    rw [hgroups, scopes, tabulate, List.map_map]
    exact List.map_id _
  have hnodup : groups.scopes.Nodup := hscopes ▸ nodup_eraseDups used
  refine ⟨hnodup, hscopes ▸ pairwise_idxOf_eraseDups used, fun scope => ?_, fun group hgroup => ?_,
    ?_, fun scope => ?_, fun scope records => get?_eq_some_iff hnodup⟩
  · rw [hscopes, List.mem_eraseDups]
  · rw [hgroups] at hgroup
    obtain ⟨scope, hscope, rfl⟩ := List.mem_map.1 hgroup
    exact fun hnil => recordsOf_eq_nil_iff.1 hnil (List.mem_eraseDups.1 hscope)
  · have hfinset : used.toFinset = groups.scopes.toFinset := by
      ext scope
      rw [List.mem_toFinset, List.mem_toFinset, hscopes, List.mem_eraseDups]
    rw [hfinset, List.toFinset_card_of_nodup hnodup, scopes, List.length_map, size]
  · rw [hgroups, get?_tabulate]
    simp only [List.mem_eraseDups]
    rfl

end ScopeGroups

end Wiring
