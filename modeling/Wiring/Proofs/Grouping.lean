import Wiring.Proofs.FirstOccurrences
import Wiring.Proofs.Success
import Wiring.Provision

/-!
# The groups of provisions

What grouping by scope gives: a group for each scope that is used, in the order of first use, with
the provisions that are published there in the order in which they came.

* `ScopeGroups.tabulate`: a list of groups from scopes and the records of each;
* `ScopeGroups.pushTo_tabulate`, `ScopeGroups.pushAll_tabulate`: one record more;
* `Provision.targets`, `Provision.HasTarget`, `Provision.refusal?`: the scopes of a provision,
  whether there are any, and with which failure there are none;
* `publish_eq`, **`groupByScope_eq`**: one provision, and all of them;
* **`yields_groupByScope`**: grouping succeeds exactly if every provision has a scope to go to, and
  then gives these groups.
-/

namespace Wiring

namespace ScopeGroups

variable {α : Type}

/-- The groups of the given scopes, each with its records. -/
def tabulate (scopes : List QualifiedName) (records : QualifiedName → List α) :
    List (QualifiedName × List α) :=
  scopes.map fun scope => (scope, records scope)

variable {scopes : List QualifiedName} {records more : QualifiedName → List α}

theorem tabulate_congr (h : ∀ scope ∈ scopes, records scope = more scope) :
    tabulate scopes records = tabulate scopes more :=
  List.map_congr_left fun scope hscope => by rw [h scope hscope]

theorem addNew_singleton_cons {first scope : QualifiedName} (h : first ≠ scope) :
    addNew (first :: scopes) [scope] = first :: addNew scopes [scope] := by
  by_cases hmem : scope ∈ scopes
  · simp [addNew, hmem]
  · simp [addNew, hmem, h.symm]

/-- A record more in the group of a scope, which is a new group at the end if there was none. -/
theorem pushTo_tabulate (record : α) {scope : QualifiedName} (hnodup : scopes.Nodup)
    (hnew : scope ∉ scopes → records scope = []) :
    pushTo scope record (tabulate scopes records) =
      tabulate (addNew scopes [scope])
        fun s => if s = scope then records s ++ [record] else records s := by
  induction scopes with
  | nil =>
    have hempty : records scope = [] := hnew List.not_mem_nil
    simp [tabulate, pushTo, addNew, hempty]
  | cons first rest ih =>
    obtain ⟨hfirst, hrest⟩ := List.nodup_cons.1 hnodup
    rw [tabulate, List.map_cons, pushTo]
    by_cases h : first = scope
    · subst h
      -- The scope is not among the other ones, so their groups stay as they are.
      have hsame : tabulate rest records =
          tabulate rest fun s => if s = first then records s ++ [record] else records s :=
        tabulate_congr fun s hs => by rw [if_neg (ne_of_mem_of_not_mem hs hfirst)]
      rw [if_pos rfl, addNew, if_pos List.mem_cons_self, addNew, tabulate, List.map_cons,
        if_pos rfl]
      exact congrArg _ hsame
    · have hrec := ih hrest fun hmem => hnew (by simp [Ne.symm h, hmem])
      rw [if_neg h, addNew_singleton_cons h, tabulate, List.map_cons, if_neg h]
      exact congrArg _ hrec

/-- A record more in the groups of distinct scopes. -/
theorem pushAll_tabulate (record : α) {targets : List QualifiedName} (htargets : targets.Nodup)
    (hnodup : scopes.Nodup) (hnew : ∀ scope ∉ scopes, records scope = []) :
    pushAll ⟨tabulate scopes records⟩ targets record =
      ⟨tabulate (addNew scopes targets)
        fun s => if s ∈ targets then records s ++ [record] else records s⟩ := by
  induction targets generalizing scopes records with
  | nil => simp [pushAll, addNew]
  | cons first rest ih =>
    obtain ⟨hfirst, hrest⟩ := List.nodup_cons.1 htargets
    have hpush := pushTo_tabulate record hnodup (hnew first)
    have hmore : ∀ scope ∉ addNew scopes [first],
        (if scope = first then records scope ++ [record] else records scope) = [] := by
      intro scope hscope
      rw [mem_addNew, List.mem_singleton, not_or] at hscope
      rw [if_neg hscope.2, hnew scope hscope.1]
    rw [pushAll, List.foldl_cons, push, hpush, ← pushAll, ih hrest (nodup_addNew hnodup) hmore,
      ← addNew_append, List.singleton_append]
    congr 2
    funext s
    by_cases hs : s = first
    · simp [hs, hfirst]
    · simp [hs]

end ScopeGroups

/-! ## Provisions -/

namespace Provision

variable (defaults : List QualifiedName) (policy : ScopePolicy) (provision : Provision)

/-- The scopes that a provision is published in: its own one, or each of the default scopes. -/
def targets : List QualifiedName :=
  match provision.scope with
  | some scope => [scope]
  | none => distinct defaults

/-- Whether a provision is published in a scope: it is its own one, or it has none and the scope is
a default scope. -/
def IsPublishedIn (scope : QualifiedName) : Prop :=
  provision.scope = some scope ∨ provision.scope = none ∧ scope ∈ defaults

instance (scope : QualifiedName) : Decidable (provision.IsPublishedIn defaults scope) :=
  inferInstanceAs (Decidable (_ ∨ _))

/-- Whether a provision without a scope of its own has default scopes to go to, and one only if the
policy requires it. -/
def HasTarget : Prop :=
  provision.scope = none →
    distinct defaults ≠ [] ∧ (policy = .requireSingle → (distinct defaults).length = 1)

instance : Decidable (provision.HasTarget defaults policy) := inferInstanceAs (Decidable (_ → _))

theorem mem_targets {scope : QualifiedName} :
    scope ∈ provision.targets defaults ↔ provision.IsPublishedIn defaults scope := by
  rw [targets, IsPublishedIn]
  cases provision.scope <;> simp [mem_distinct, eq_comm]

theorem nodup_targets : (provision.targets defaults).Nodup := by
  rw [targets]
  cases provision.scope with
  | none => exact nodup_distinct defaults
  | some scope => exact List.pairwise_singleton _ scope

theorem targets_eq : provision.targets defaults = provision.scope.elim defaults.eraseDups ([·]) := by
  rw [targets, distinct_eq_eraseDups]
  cases provision.scope <;> rfl

/-- Why a provision cannot be published: it has no scope of its own and there is no default scope, or
there are several and the policy requires a single one. -/
def refusal? : Option Failure :=
  if provision.scope.isSome then none
  else if defaults.eraseDups.length = 0 then some (.unresolvedScope provision.element)
  else if policy = .requireSingle ∧ defaults.eraseDups.length ≠ 1 then
    some (.ambiguousScope provision.element defaults.eraseDups)
  else none

theorem refusal?_eq_none_iff :
    provision.refusal? defaults policy = none ↔ provision.HasTarget defaults policy := by
  rw [refusal?, HasTarget, distinct_eq_eraseDups]
  cases provision.scope with
  | some scope => simp
  | none =>
    by_cases hempty : defaults.eraseDups = []
    · simp [hempty]
    · by_cases hone : defaults.eraseDups.length = 1 <;> simp [hempty, hone]

end Provision

/-- Publishing a provision fails if it is refused, and otherwise adds it to the groups of its
scopes. -/
theorem publish_eq (defaults : List QualifiedName) (policy : ScopePolicy)
    (groups : ScopeGroups Provision) (provision : Provision) :
    publish (distinct defaults) policy groups provision =
      (provision.refusal? defaults policy).elim
        (.ok (groups.pushAll (provision.targets defaults) provision)) .error := by
  rw [Provision.targets_eq, Provision.refusal?, ← distinct_eq_eraseDups]
  cases hscope : provision.scope with
  | some scope =>
    simp only [publish, hscope]
    rfl
  | none =>
    simp only [publish, hscope]
    cases distinct defaults with
    | nil => rfl
    | cons first rest => cases rest <;> cases policy <;> simp

/-- The groups of provisions: the scopes in the order of their first use, and in each the provisions
that are published there. -/
def publishedGroups (defaults : List QualifiedName) (provisions : List Provision) :
    List (QualifiedName × List Provision) :=
  ((provisions.flatMap (·.targets defaults)).eraseDups).map fun scope =>
    (scope, provisions.filter (·.IsPublishedIn defaults scope))

/-- Publishing provisions one after the other adds each to the groups of its scopes. -/
theorem foldl_pushAll_tabulate (defaults : List QualifiedName) (provisions : List Provision)
    {scopes : List QualifiedName} {records : QualifiedName → List Provision}
    (hnodup : scopes.Nodup) (hnew : ∀ scope ∉ scopes, records scope = []) :
    provisions.foldl (fun groups p => ScopeGroups.pushAll groups (p.targets defaults) p)
        ⟨ScopeGroups.tabulate scopes records⟩ =
      ⟨ScopeGroups.tabulate (addNew scopes (provisions.flatMap (·.targets defaults)))
        fun s => records s ++ provisions.filter (·.IsPublishedIn defaults s)⟩ := by
  induction provisions generalizing scopes records with
  | nil => simp [addNew]
  | cons p rest ih =>
    have hmore : ∀ scope ∉ addNew scopes (p.targets defaults),
        (if scope ∈ p.targets defaults then records scope ++ [p] else records scope) = [] := by
      intro scope hscope
      rw [mem_addNew, not_or] at hscope
      rw [if_neg hscope.2, hnew scope hscope.1]
    rw [List.foldl_cons,
      ScopeGroups.pushAll_tabulate p (p.nodup_targets defaults) hnodup hnew,
      ih (nodup_addNew hnodup) hmore, List.flatMap_cons, addNew_append]
    congr 2
    funext s
    by_cases h : p.IsPublishedIn defaults s
    · simp [Provision.mem_targets, h]
    · simp [Provision.mem_targets, h]

/-- Publishing provisions one after the other makes their groups. -/
theorem foldl_pushAll_targets (defaults : List QualifiedName) (provisions : List Provision) :
    provisions.foldl (fun groups p => ScopeGroups.pushAll groups (p.targets defaults) p) .empty =
      ⟨publishedGroups defaults provisions⟩ := by
  -- The empty list of groups is the table of no scopes.
  have hnew : ∀ scope ∉ ([] : List QualifiedName), ([] : List Provision) = [] := fun _ _ => rfl
  have hfold := foldl_pushAll_tabulate defaults provisions List.nodup_nil hnew
  rw [← distinct, distinct_eq_eraseDups] at hfold
  simp only [List.nil_append] at hfold
  exact hfold

/-- **Grouping fails as the first provision does that is refused**, and otherwise gives the groups of
all. -/
theorem groupByScope_eq (provisions : List Provision) (defaults : List QualifiedName)
    (policy : ScopePolicy) :
    groupByScope provisions defaults policy =
      (provisions.findSome? (·.refusal? defaults policy)).elim
        (.ok ⟨publishedGroups defaults provisions⟩) .error := by
  rw [groupByScope, foldlM_eq_findSome? (publish_eq defaults policy), foldl_pushAll_targets]

/-- **Grouping succeeds exactly if every provision has a scope to go to**, and then each scope that
is used has the provisions that are published in it. -/
theorem yields_groupByScope (provisions : List Provision) (defaults : List QualifiedName)
    (policy : ScopePolicy) :
    Yields (groupByScope provisions defaults policy)
      (∀ provision ∈ provisions, provision.HasTarget defaults policy)
      ⟨publishedGroups defaults provisions⟩ :=
  (Yields.of_refusal (groupByScope_eq provisions defaults policy)).congr
    (by simp only [List.findSome?_eq_none_iff, Provision.refusal?_eq_none_iff]) fun _ => rfl

end Wiring
