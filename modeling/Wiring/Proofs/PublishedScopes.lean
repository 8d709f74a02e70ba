import Mathlib.Data.List.Basic
import Mathlib.Data.List.Nodup
import Mathlib.Data.List.Perm.Basic
import Wiring.Proofs.Grouping

/-!
# What grouping by scope keeps

The groups of provisions hold each provision once for each scope that it is published in, in the
order in which the provisions came, and no group is empty.

* `ScopeGroups.get?_tabulate`, `mem_publishedScopes`, `get?_publishedGroups`: the scopes that have a
  group, and what is found in it;
* `length_flatMap_filter_comm`: a relation is counted from either side;
* `length_publishedGroups`: how many provisions stand in all groups;
* **`groupByScope_exact`**: the groups, their order, and what stands in each.
-/

namespace Wiring

theorem nodup_eraseDups {α : Type} [DecidableEq α] (list : List α) : list.eraseDups.Nodup :=
  distinct_eq_eraseDups list ▸ nodup_distinct list

/-- What is found in a list of groups that is given by its scopes and their records. -/
theorem ScopeGroups.get?_tabulate {α : Type} (scopes : List QualifiedName)
    (records : QualifiedName → List α) (scope : QualifiedName) :
    (ScopeGroups.mk (tabulate scopes records)).get? scope =
      if scope ∈ scopes then some (records scope) else none := by
  rw [get?, tabulate]
  split
  · next h => exact List.lookup_graph records h
  · next h =>
    refine List.lookup_eq_none_iff.2 fun group hgroup => ?_
    obtain ⟨other, hother, rfl⟩ := List.mem_map.1 hgroup
    exact bne_iff_ne.2 (ne_of_mem_of_not_mem hother h).symm

/-! ## The groups of scopes that are used -/

section

variable (defaults : List QualifiedName) (provisions : List Provision)

/-- A scope has a group if and only if some provision is published in it. -/
theorem mem_publishedScopes {scope : QualifiedName} :
    scope ∈ (provisions.flatMap (·.targets defaults)).eraseDups ↔
      provisions.filter (·.IsPublishedIn defaults scope) ≠ [] := by
  rw [List.mem_eraseDups, ne_eq, List.filter_eq_nil_iff]
  simp [Provision.mem_targets]

/-- The group of a scope has the provisions that are published in it. A scope without any has no
group. -/
theorem get?_publishedGroups (scope : QualifiedName) :
    (ScopeGroups.mk (publishedGroups defaults provisions)).get? scope =
      if scope ∈ (provisions.flatMap (·.targets defaults)).eraseDups then
        some (provisions.filter (·.IsPublishedIn defaults scope))
      else none :=
  ScopeGroups.get?_tabulate _ _ scope

end

/-! ## How many there are -/

/-- A member more on the one side adds the members on the other side that it is related to. -/
theorem length_flatMap_filter_cons {α β : Type} (related : α → β → Bool) (x : α) (xs : List α)
    (ys : List β) :
    (ys.flatMap fun y => (x :: xs).filter (related · y)).length =
      (ys.filter (related x)).length + (ys.flatMap fun y => xs.filter (related · y)).length := by
  induction ys with
  | nil => rfl
  | cons y ys ih =>
    rw [List.flatMap_cons, List.length_append, ih, List.flatMap_cons, List.length_append]
    by_cases h : related x y
    · simp only [List.filter_cons, h, if_true, List.length_cons]
      omega
    · simp only [List.filter_cons, h, Bool.false_eq_true, if_false]
      omega

/-- The pairs of a relation between two lists are as many from either side. -/
theorem length_flatMap_filter_comm {α β : Type} (related : α → β → Bool) (xs : List α)
    (ys : List β) :
    (xs.flatMap fun x => ys.filter (related x)).length =
      (ys.flatMap fun y => xs.filter (related · y)).length := by
  induction xs with
  | nil => simp
  | cons x rest ih =>
    rw [List.flatMap_cons, List.length_append, ih, length_flatMap_filter_cons]

/-- The scopes among those of all provisions that one of them is published in. -/
theorem length_filter_isPublishedIn {defaults : List QualifiedName} {provisions : List Provision}
    {provision : Provision} (h : provision ∈ provisions) :
    (((provisions.flatMap (·.targets defaults)).eraseDups).filter
        (provision.IsPublishedIn defaults ·)).length = (provision.targets defaults).length := by
  refine List.Perm.length_eq ((List.perm_ext_iff_of_nodup ?_ (provision.nodup_targets defaults)).2
    fun scope => ?_)
  · exact (nodup_eraseDups _).filter _
  · rw [List.mem_filter, List.mem_eraseDups, decide_eq_true_eq, ← Provision.mem_targets]
    exact and_iff_right_of_imp fun hscope => List.mem_flatMap.2 ⟨provision, h, hscope⟩

theorem length_flatMap_targets (defaults : List QualifiedName) (provisions : List Provision) :
    (provisions.flatMap (·.targets defaults)).length =
      provisions.countP (·.scope.isSome) +
        provisions.countP (·.scope.isNone) * defaults.eraseDups.length := by
  induction provisions with
  | nil => simp
  | cons provision rest ih =>
    rw [List.flatMap_cons, List.length_append, ih, Provision.targets_eq, List.countP_cons,
      List.countP_cons]
    cases provision.scope with
    | none => simp [Nat.add_mul]; omega
    | some scope => simp; omega

/-- All groups together have each provision with a scope once, and each other one as often as there
are default scopes. -/
theorem length_publishedGroups (defaults : List QualifiedName) (provisions : List Provision) :
    ((publishedGroups defaults provisions).flatMap (·.2)).length =
      provisions.countP (·.scope.isSome) +
        provisions.countP (·.scope.isNone) * defaults.eraseDups.length := by
  have hcomm := length_flatMap_filter_comm
    (fun scope (provision : Provision) => decide (provision.IsPublishedIn defaults scope))
    (provisions.flatMap (·.targets defaults)).eraseDups provisions
  rw [publishedGroups, List.flatMap_map, hcomm, ← length_flatMap_targets, List.length_flatMap,
    List.length_flatMap]
  exact congrArg List.sum (List.map_congr_left fun provision h => length_filter_isPublishedIn h)

/-! ## Grouping -/

/-- **Grouping is exact.** Scopes are distinct and stand in the order of first publication, where a
provision without a scope of its own is published in each of the default scopes once. A scope has a
group if some provision is published in it, and the group has those provisions and no others, in
their order. -/
theorem groupByScope_exact (provisions : List Provision) (defaults : List QualifiedName)
    (policy : ScopePolicy) (groups : ScopeGroups Provision)
    (h : groupByScope provisions defaults policy = .ok groups) :
    let published (scope : QualifiedName) := provisions.filter fun provision =>
      provision.scope = some scope ∨ provision.scope = none ∧ scope ∈ defaults
    groups.scopes.Nodup ∧
    (∀ group ∈ groups.groups, group.2 ≠ [] ∧ group.2 = published group.1) ∧
    (∀ scope, (groups.get? scope).getD [] = published scope) ∧
    (∀ scope, scope ∈ groups.scopes ↔ published scope ≠ []) ∧
    groups.scopes = (provisions.flatMap fun provision =>
      provision.scope.elim defaults.eraseDups ([·])).eraseDups ∧
    (groups.groups.flatMap (·.2)).length =
      provisions.countP (·.scope.isSome) +
        provisions.countP (·.scope.isNone) * defaults.eraseDups.length := by
  intro published
  obtain ⟨-, rfl⟩ := (yields_groupByScope provisions defaults policy groups).1 h
  have hscopes : (ScopeGroups.mk (publishedGroups defaults provisions)).scopes =
      (provisions.flatMap (·.targets defaults)).eraseDups := by
    simp [ScopeGroups.scopes, publishedGroups, Function.comp_def]
  have hmem : ∀ scope, scope ∈ (provisions.flatMap (·.targets defaults)).eraseDups ↔
      published scope ≠ [] := fun scope => mem_publishedScopes defaults provisions
  refine ⟨hscopes ▸ nodup_eraseDups _, fun group hgroup => ?_, fun scope => ?_, fun scope => ?_, ?_,
    length_publishedGroups defaults provisions⟩
  · obtain ⟨scope, hscope, rfl⟩ := List.mem_map.1 hgroup
    exact ⟨(hmem scope).1 hscope, rfl⟩
  · rw [get?_publishedGroups]
    split
    · rfl
    · next hnone => exact (not_not.1 (mt (hmem scope).2 hnone)).symm
  · rw [hscopes, hmem]
  · rw [hscopes]
    exact congrArg (fun targets => (provisions.flatMap targets).eraseDups)
      (funext (Provision.targets_eq defaults))

/-- The provision of a client in a scope, or in none of its own. -/
def clientProvision (name : String) (scope : Option QualifiedName) : Provision :=
  ⟨name, .ofClass ⟨"p.Client"⟩, [], scope, ⟨⟨"p.Net"⟩, some name⟩⟩

/-- Clients with and without a scope of their own in turn. -/
def clientProvisions : List Provision :=
  [clientProvision "login" (some ⟨"p.Login"⟩), clientProvision "main" none,
    clientProvision "user" (some ⟨"p.User"⟩), clientProvision "spare" none]

/-- The default scopes come after a scope that is used before them, and one of them has clients of
both kinds. A default scope that is given twice has each client once. -/
theorem groupByScope_exact_clients :
    ∃ groups, groupByScope clientProvisions [⟨"p.App"⟩, ⟨"p.User"⟩, ⟨"p.App"⟩] .fanOut =
        .ok groups ∧
      groups.scopes = [⟨"p.Login"⟩, ⟨"p.App"⟩, ⟨"p.User"⟩] ∧
      ((groups.get? ⟨"p.User"⟩).getD []).map (·.name) = ["main", "user", "spare"] ∧
      (groups.groups.flatMap (·.2)).length = 2 + 2 * 2 := by
  have hgroups := (yields_groupByScope clientProvisions [⟨"p.App"⟩, ⟨"p.User"⟩, ⟨"p.App"⟩] .fanOut
    _).2 ⟨by decide, rfl⟩
  obtain ⟨-, -, hget, -, hscopes, htotal⟩ := groupByScope_exact _ _ _ _ hgroups
  refine ⟨_, hgroups, hscopes.trans (by decide), ?_, htotal.trans (by decide)⟩
  rw [hget]
  decide

end Wiring
