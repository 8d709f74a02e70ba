import Wiring.Proofs.PublishedScopes

/-!
# Provisions without a scope to go to

Grouping by scope fails at the first provision that has no scope of its own, if the class gives no
default scope, or several where one is required. Where one is required and given, both policies
agree.

* `Provision.refusal?_eq_some_iff`: what refuses a provision without a scope of its own;
* `findSome?_refusal?`, `groupByScope_eq_error_iff`: all of them are refused alike, so that the first
  one counts;
* **`groupByScope_fails_iff`**: when grouping fails, and with which failure.
-/

namespace Wiring

variable {defaults : List QualifiedName} {policy : ScopePolicy}

/-! ## One provision -/

namespace Provision

/-- If a provision without a scope of its own can be published, all can. -/
theorem refusal?_eq_none {provision other : Provision} (hscope : provision.scope = none)
    (h : provision.refusal? defaults policy = none) : other.refusal? defaults policy = none := by
  simp only [refusal?, hscope, Option.isSome_none, Bool.false_eq_true, if_false] at h ⊢
  split at h
  · cases h
  · next hsome =>
    split at h
    · cases h
    · next hsingle => rw [if_neg hsome, if_neg hsingle, ite_self]

/-- What refuses a provision without a scope of its own. -/
theorem refusal?_eq_some_iff {provision : Provision} (hscope : provision.scope = none)
    {failure : Failure} :
    provision.refusal? defaults policy = some failure ↔
      defaults.eraseDups.length = 0 ∧ failure = .unresolvedScope provision.element ∨
      2 ≤ defaults.eraseDups.length ∧ policy = .requireSingle ∧
        failure = .ambiguousScope provision.element defaults.eraseDups := by
  rw [refusal?, hscope, Option.isSome_none, if_neg Bool.false_ne_true]
  by_cases hnone : defaults.eraseDups.length = 0
  · simp [hnone, eq_comm]
  · have hseveral : 2 ≤ defaults.eraseDups.length ↔ defaults.eraseDups.length ≠ 1 := by omega
    rw [if_neg hnone, hseveral]
    by_cases hsingle : policy = .requireSingle ∧ defaults.eraseDups.length ≠ 1
    · simp [hnone, hsingle, eq_comm]
    · rw [if_neg hsingle]
      simp only [reduceCtorEq, hnone, false_and, false_or, false_iff]
      exact fun h => hsingle ⟨h.2.1, h.1⟩

end Provision

/-! ## All provisions -/

/-- The first provision that is refused is the first one without a scope of its own. -/
theorem findSome?_refusal? (provisions : List Provision) :
    provisions.findSome? (·.refusal? defaults policy) =
      (provisions.find? (·.scope.isNone)).bind (·.refusal? defaults policy) := by
  induction provisions with
  | nil => rfl
  | cons provision rest ih =>
    rw [List.findSome?_cons, List.find?_cons]
    cases hscope : provision.scope with
    | some scope =>
      have hnone : provision.refusal? defaults policy = none := by
        rw [Provision.refusal?, hscope]
        rfl
      rw [hnone]
      exact ih
    | none =>
      have hfirst : (some provision).bind (·.refusal? defaults policy) =
          provision.refusal? defaults policy := rfl
      rw [Option.isNone_none, hfirst]
      cases hrefusal : provision.refusal? defaults policy with
      | some failure => rfl
      | none => exact List.findSome?_eq_none_iff.2 fun other _ =>
          Provision.refusal?_eq_none hscope hrefusal

/-- Grouping fails as the first provision does that has no scope of its own. -/
theorem groupByScope_eq_error_iff {provisions : List Provision} {failure : Failure} :
    groupByScope provisions defaults policy = .error failure ↔
      ∃ provision, provisions.find? (·.scope.isNone) = some provision ∧
        provision.refusal? defaults policy = some failure := by
  rw [groupByScope_eq, findSome?_refusal?, ← Option.bind_eq_some_iff]
  cases (provisions.find? (·.scope.isNone)).bind (·.refusal? defaults policy) <;> simp

theorem groupByScope_fails_iff_of_policy {provisions : List Provision} :
    (∃ failure, groupByScope provisions defaults policy = .error failure) ↔
      (defaults.eraseDups.length = 0 ∨
        2 ≤ defaults.eraseDups.length ∧ policy = .requireSingle) ∧
      ∃ provision ∈ provisions, provision.scope = none := by
  constructor
  · rintro ⟨failure, herror⟩
    obtain ⟨provision, hfirst, hrefusal⟩ := groupByScope_eq_error_iff.1 herror
    have hscope : provision.scope = none := by simpa using List.find?_some hfirst
    refine ⟨?_, provision, List.mem_of_find?_eq_some hfirst, hscope⟩
    rcases (Provision.refusal?_eq_some_iff hscope).1 hrefusal with ⟨hnone, -⟩ | ⟨hseveral, hsingle, -⟩
    · exact .inl hnone
    · exact .inr ⟨hseveral, hsingle⟩
  · rintro ⟨hscopes, provision, hmem, hscope⟩
    have hsome : (provisions.find? (·.scope.isNone)).isSome :=
      List.find?_isSome.2 ⟨provision, hmem, by simp [hscope]⟩
    obtain ⟨first, hfirst⟩ := Option.isSome_iff_exists.1 hsome
    have hfirstScope : first.scope = none := by simpa using List.find?_some hfirst
    rcases hscopes with hnone | ⟨hseveral, hsingle⟩
    · exact ⟨_, groupByScope_eq_error_iff.2 ⟨first, hfirst,
        (Provision.refusal?_eq_some_iff hfirstScope).2 (.inl ⟨hnone, rfl⟩)⟩⟩
    · exact ⟨_, groupByScope_eq_error_iff.2 ⟨first, hfirst,
        (Provision.refusal?_eq_some_iff hfirstScope).2 (.inr ⟨hseveral, hsingle, rfl⟩)⟩⟩

/-- **When grouping fails.** Under the policy that publishes in all default scopes it fails if there
is none and some provision has no scope of its own, and under the one that requires a single default
scope it fails if their number is another one and some provision has no scope of its own. It fails
at the first such provision, and the failure gives the distinct default scopes in order if there are
several. Otherwise the two policies agree. -/
theorem groupByScope_fails_iff (provisions : List Provision) (defaults : List QualifiedName) :
    let scopes := defaults.eraseDups
    ((∃ failure, groupByScope provisions defaults .fanOut = .error failure) ↔
      scopes.length = 0 ∧ ∃ provision ∈ provisions, provision.scope = none) ∧
    ((∃ failure, groupByScope provisions defaults .requireSingle = .error failure) ↔
      scopes.length ≠ 1 ∧ ∃ provision ∈ provisions, provision.scope = none) ∧
    (∀ policy failure, groupByScope provisions defaults policy = .error failure →
      ∃ provision, provisions.find? (·.scope.isNone) = some provision ∧
        (scopes.length = 0 ∧ failure = .unresolvedScope provision.element ∨
          2 ≤ scopes.length ∧ failure = .ambiguousScope provision.element scopes)) ∧
    ∀ groups, groupByScope provisions defaults .requireSingle = .ok groups →
      groupByScope provisions defaults .fanOut = .ok groups := by
  intro scopes
  refine ⟨?_, ?_, fun policy failure herror => ?_, fun groups hgroups => ?_⟩
  · rw [groupByScope_fails_iff_of_policy]
    simp [scopes]
  · rw [groupByScope_fails_iff_of_policy]
    have hcount : scopes.length = 0 ∨ 2 ≤ scopes.length ↔ scopes.length ≠ 1 := by omega
    simp only [and_true]
    rw [hcount]
  · obtain ⟨provision, hfirst, hrefusal⟩ := groupByScope_eq_error_iff.1 herror
    have hscope : provision.scope = none := by simpa using List.find?_some hfirst
    refine ⟨provision, hfirst, ?_⟩
    exact ((Provision.refusal?_eq_some_iff hscope).1 hrefusal).imp_right fun h => ⟨h.1, h.2.2⟩
  · obtain ⟨htargets, rfl⟩ := (yields_groupByScope provisions defaults _ groups).1 hgroups
    refine (yields_groupByScope provisions defaults _ _).2 ⟨fun provision hmem hscope => ?_, rfl⟩
    refine ⟨(htargets provision hmem hscope).1, fun hpolicy => ?_⟩
    cases hpolicy

/-- With two default scopes the second of the clients is the first that has no scope of its own. A
single default scope may be given twice. -/
theorem groupByScope_fails_iff_clients :
    groupByScope clientProvisions [⟨"p.App"⟩, ⟨"p.User"⟩, ⟨"p.App"⟩] .requireSingle =
        .error (.ambiguousScope ⟨⟨"p.Net"⟩, some "main"⟩ [⟨"p.App"⟩, ⟨"p.User"⟩]) ∧
      ∃ groups, groupByScope clientProvisions [⟨"p.App"⟩, ⟨"p.App"⟩] .requireSingle = .ok groups ∧
        groupByScope clientProvisions [⟨"p.App"⟩, ⟨"p.App"⟩] .fanOut = .ok groups := by
  obtain ⟨-, hfails, hfirst, -⟩ :=
    groupByScope_fails_iff clientProvisions [⟨"p.App"⟩, ⟨"p.User"⟩, ⟨"p.App"⟩]
  obtain ⟨-, -, -, hagree⟩ := groupByScope_fails_iff clientProvisions [⟨"p.App"⟩, ⟨"p.App"⟩]
  constructor
  · have hmain : clientProvisions.find? (·.scope.isNone) = some (clientProvision "main" none) := rfl
    obtain ⟨failure, herror⟩ := hfails.2 ⟨by decide, _, List.mem_of_find?_eq_some hmain, rfl⟩
    obtain ⟨provision, hprovision, ⟨hnone, -⟩ | ⟨-, rfl⟩⟩ := hfirst _ _ herror
    · exact absurd hnone (by decide)
    · obtain rfl := Option.some.inj (hmain.symm.trans hprovision)
      exact herror
  · have hsingle := (yields_groupByScope clientProvisions [⟨"p.App"⟩, ⟨"p.App"⟩] .requireSingle
      _).2 ⟨by decide, rfl⟩
    exact ⟨_, hsingle, hagree _ hsingle⟩

end Wiring
