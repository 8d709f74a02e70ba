import Wiring.Proofs.BoundFiles

/-!
# Properties that are in conflict

Two properties of an interface are in conflict if they have the same name and the same receiver.
Nothing keeps generated interfaces from having such properties: markers may be repeated, and names
come from members that may be overloaded, and from annotations.

* `Kotlin.Interface.IsConflictFree`: an interface without such properties;
* `ClassDeclaration.BindsApart`, `ClassDeclaration.boundFile_isConflictFree`: the classes whose
  interface of bindings is free of conflicts;
* **`isConflictFree_iff`**: when generated interfaces of bindings and of provisions are free of
  conflicts.
-/

namespace Wiring

open Kotlin

/-! ## Repeated keys -/

section

variable {α β : Type} {list : List α} {times : α → Nat} (key : α → β)

theorem mem_flatMap_replicate (h : ∀ a ∈ list, times a ≠ 0) (b : β) :
    (b ∈ list.flatMap fun a => List.replicate (times a) (key a)) ↔ b ∈ list.map key := by
  simp only [List.mem_flatMap, List.mem_replicate, List.mem_map]
  constructor
  · rintro ⟨a, ha, -, hb⟩
    exact ⟨a, ha, hb.symm⟩
  · rintro ⟨a, ha, hb⟩
    exact ⟨a, ha, h a ha, hb.symm⟩

/-- Keys that are repeated are distinct if each stands once and they were distinct before. -/
theorem nodup_flatMap_replicate (h : ∀ a ∈ list, times a ≠ 0) :
    (list.flatMap fun a => List.replicate (times a) (key a)).Nodup ↔
      (∀ a ∈ list, times a = 1) ∧ (list.map key).Nodup := by
  induction list with
  | nil => simp
  | cons a rest ih =>
    obtain ⟨ha, hrest⟩ := List.forall_mem_cons.1 h
    have honce : (List.replicate (times a) (key a)).Nodup ↔ times a = 1 := by
      rw [List.nodup_replicate]
      omega
    have happart : (∀ x ∈ List.replicate (times a) (key a),
        ∀ y ∈ rest.flatMap fun a => List.replicate (times a) (key a), x ≠ y) ↔
          key a ∉ rest.map key := by
      simp only [mem_flatMap_replicate key hrest, List.mem_replicate, and_imp]
      constructor
      · intro hne hmem
        exact hne (key a) ha rfl (key a) hmem rfl
      · rintro hmem x - rfl y hy rfl
        exact hmem hy
    rw [List.flatMap_cons, List.nodup_append, ih hrest, honce, happart, List.forall_mem_cons,
      List.map_cons, List.nodup_cons]
    constructor
    · rintro ⟨hfirst, ⟨hall, hnodup⟩, hmem⟩
      exact ⟨⟨hfirst, hall⟩, hmem, hnodup⟩
    · rintro ⟨⟨hfirst, hall⟩, hmem, hnodup⟩
      exact ⟨hfirst, ⟨hall, hnodup⟩, hmem⟩

end

/-! ## Interfaces -/

/-- No two properties have the same name and the same receiver. -/
def Kotlin.Interface.IsConflictFree (i : Interface) : Prop :=
  (i.properties.map fun property => (property.name, property.receiver)).Nodup

namespace ClassDeclaration

variable (c : ClassDeclaration) (context : Context)

/-- Each marked member has one marker only, and no two of them share their name and the class of
their type. -/
structure BindsApart : Prop where
  once : ∀ member ∈ c.boundMembers context,
    (annotationsOf member.annotations context.schema.providesBinding).length = 1
  apart : ((c.boundMembers context).map fun member => (member.name, member.type.head)).Nodup

theorem length_markers_ne_zero {member : Member} (h : member ∈ c.boundMembers context) :
    (annotationsOf member.annotations context.schema.providesBinding).length ≠ 0 := by
  intro hnone
  have hmarked := (List.mem_filter.1 h).2
  rw [annotationsOf_eq_nil.1 (List.eq_nil_of_length_eq_zero hnone)] at hmarked
  cases hmarked

theorem boundFile_isConflictFree {i : Interface} (h : i ∈ (c.boundFile context).interfaces) :
    i.IsConflictFree ↔ c.BindsApart context := by
  have hinjective : (fun key : String × QualifiedName =>
      (key.1, some (TypeName.ofClass key.2))).Injective := by
    rintro ⟨name, head⟩ ⟨name', head'⟩ heq
    cases heq
    rfl
  -- All properties of a member have the name of the member and the class of its type.
  have hkeys : i.properties.map (fun property => (property.name, property.receiver)) =
      ((c.boundMembers context).flatMap fun member => List.replicate
        (annotationsOf member.annotations context.schema.providesBinding).length
        (member.name, member.type.head)).map fun key =>
          (key.1, some (TypeName.ofClass key.2)) := by
    rw [boundFile, List.mem_singleton] at h
    rw [h, List.map_flatMap, List.map_flatMap]
    refine List.flatMap_congr fun member _ => ?_
    rw [List.map_map, List.map_replicate, ← List.map_const']
    rfl
  rw [Interface.IsConflictFree, hkeys, List.nodup_map_iff hinjective,
    nodup_flatMap_replicate _ fun member => c.length_markers_ne_zero context]
  exact ⟨fun hapart => ⟨hapart.1, hapart.2⟩, fun hapart => ⟨hapart.once, hapart.apart⟩⟩

theorem publishedFile_isConflictFree {i : Interface}
    (h : i ∈ (c.publishedFile context).interfaces) :
    ∃ scope ∈ c.publishedScopes context, i.annotations = [contributesTo scope] ∧
      (i.IsConflictFree ↔ (((c.publishedRecords context).filter
        (·.IsPublishedIn (c.defaultScopes context) scope)).map (·.name)).Nodup) := by
  obtain ⟨⟨scope, index⟩, hscope, rfl⟩ := List.mem_map.1 h
  refine ⟨scope, List.fst_mem_of_mem_zipIdx hscope, rfl, ?_⟩
  have hinjective : (fun name : String => (name, (none : Option TypeName))).Injective :=
    fun _ _ heq => congrArg Prod.fst heq
  rw [Interface.IsConflictFree, ← List.nodup_map_iff hinjective, List.map_map, List.map_map]
  rfl

end ClassDeclaration

/-! ## Generated interfaces -/

theorem ClassDeclaration.eq_publishedFile {c : ClassDeclaration} {context : Context}
    (hmarkers : context.schema.hasDistinctMarkers) {source : SourceFile}
    (h : generateProvisions c context = .ok (some source)) : source = c.publishedFile context := by
  by_cases hnone : c.publishedRecords context = []
  · rw [c.generateProvisions_of_eq_nil context hmarkers hnone] at h
    cases h
  · exact Option.some.inj ((c.yields_generateProvisions context hmarkers hnone _).1 h).2

/-- **When generated interfaces are free of conflicts.** The interface of the bindings of a class is
if and only if each marked member has one marker and no two of them share their name and the class
of their type. An interface of provisions is contributed to a scope, and it is free of conflicts if
and only if the provisions that are published in the scope have distinct names. -/
theorem isConflictFree_iff (settings : Settings) (hierarchy : Option Hierarchy)
    (unit : CompilationUnit) (hsettings : settings.validate = .ok ()) (c : ClassDeclaration) :
    let context := (({ hierarchy := hierarchy } : Setup).pipeline settings).context unit
    (∀ source, generateBindings c context = .ok (some source) →
      ∀ i ∈ source.interfaces, i.IsConflictFree ↔ c.BindsApart context) ∧
    (∀ source, generateProvisions c context = .ok (some source) →
      ∀ i ∈ source.interfaces, ∃ scope ∈ c.publishedScopes context,
        i.annotations = [contributesTo scope] ∧
        (i.IsConflictFree ↔ (((c.publishedRecords context).filter
          (·.IsPublishedIn (c.defaultScopes context) scope)).map (·.name)).Nodup)) := by
  intro context
  have hmarkers : context.schema.hasDistinctMarkers :=
    Settings.hasDistinctMarkers_of_validate hsettings
  refine ⟨fun source hsource i hi => ?_, fun source hsource i hi => ?_⟩
  · rw [c.eq_boundFile hsource] at hi
    exact c.boundFile_isConflictFree context hi
  · rw [c.eq_publishedFile hmarkers hsource] at hi
    exact c.publishedFile_isConflictFree context hi

/-- A class with one scope and a function that provides a repository, with the given markers. -/
def markedRepo (markers : List Annotation) : ClassDeclaration :=
  { ClassDeclaration.ofName "p" "Repo" with
    annotations := [.ofName WellKnown.providerModule,
      ⟨WellKnown.contributesTo, [⟨none, .classLiteral ⟨"p.App"⟩⟩], []⟩]
    functions := [⟨"repo", .ofClass ⟨"p.RepoImpl"⟩, .ofName WellKnown.provides :: markers⟩] }

/-- The marker that binds to a class. -/
def boundTo (name : String) : Annotation :=
  ⟨({} : Schema).providesBinding, [⟨none, .classLiteral ⟨name⟩⟩], []⟩

/-- The class alone in a unit, where the repository has two supertypes. -/
def markedRepoUnit (markers : List Annotation) : CompilationUnit :=
  (CompilationUnit.empty.withClass (markedRepo markers)).withExternalSupertypes ⟨"p.RepoImpl"⟩
    [⟨"p.Repository"⟩, ⟨"p.Closeable"⟩]

/-- With one marker of each kind, the class has an interface of bindings and one of provisions, and
both are free of conflicts. -/
theorem isConflictFree_markedRepo :
    let markers := [boundTo "p.Repository", .ofName ({} : Schema).contribution]
    let context := (({} : Setup).pipeline {}).context (markedRepoUnit markers)
    ({} : Settings).validate = .ok () ∧
      (∃ source, generateBindings (markedRepo markers) context = .ok (some source) ∧
        source.interfaces.length = 1 ∧ ∀ i ∈ source.interfaces, i.IsConflictFree) ∧
      ∃ source, generateProvisions (markedRepo markers) context = .ok (some source) ∧
        source.interfaces.length = 1 ∧ ∀ i ∈ source.interfaces, i.IsConflictFree := by
  intro markers context
  obtain ⟨hbindings, hprovisions⟩ := isConflictFree_iff {} none (markedRepoUnit markers)
    Settings.validate_default (markedRepo markers)
  refine ⟨Settings.validate_default, ⟨_, rfl, rfl, fun i hi => ?_⟩, ⟨_, rfl, rfl, fun i hi => ?_⟩⟩
  · exact (hbindings _ rfl i hi).2 ⟨by decide, by decide⟩
  · obtain ⟨scope, hscope, -, hiff⟩ := hprovisions _ rfl i hi
    refine hiff.2 ?_
    have hscopes : (markedRepo markers).publishedScopes context = [⟨"p.App"⟩] := by
      decide
    rw [hscopes, List.mem_singleton] at hscope
    rw [hscope]
    decide

/-- **Repeated markers give conflicting properties**: the member is bound to two of its supertypes
under one name and published twice under one name, although the settings are as they should be. -/
theorem conflict_markedRepo :
    let contribution := Annotation.ofName ({} : Schema).contribution
    let markers := [boundTo "p.Repository", boundTo "p.Closeable", contribution, contribution]
    let unit := markedRepoUnit markers
    let context := (({} : Setup).pipeline {}).context unit
    ({} : Settings).validate = .ok () ∧ markedRepo markers ∈ unit.classes ∧
      (∃ source, generateBindings (markedRepo markers) context = .ok (some source) ∧
        ∃ i ∈ source.interfaces, ¬i.IsConflictFree) ∧
      ∃ source, generateProvisions (markedRepo markers) context = .ok (some source) ∧
        ∃ i ∈ source.interfaces, ¬i.IsConflictFree := by
  intro contribution markers unit context
  refine ⟨Settings.validate_default, List.mem_singleton_self _,
    ⟨_, rfl, _, List.mem_cons_self, fun hfree => ?_⟩,
    ⟨_, rfl, _, List.mem_cons_self, fun hfree => ?_⟩⟩
  · exact (List.nodup_cons.1 hfree).1 List.mem_cons_self
  · exact (List.nodup_cons.1 hfree).1 List.mem_cons_self

end Wiring
