import Mathlib.Data.List.Perm.Subperm
import Wiring.Proofs.BoundFiles

/-!
# How often a marker is bound

The members of a companion object count as members of the class that it is in. If the companion
provides values itself, the bindings of its members are made of both.

* `ClassDeclaration.boundPlaces`: the markers of which the properties of a file are made;
* `Pipeline.SharesMembers`: a companion of which bindings are made, in a class of which bindings
  are made as well;
* `Pipeline.binders`: the classes in whose files a marker is bound, at most two
  (`Pipeline.length_binders_le_two`), and two only if they share members
  (`Pipeline.length_binders_eq_two`);
* **`binding_at_most_twice`**: a marker gives rise to at most two properties in all files of a run,
  and to two exactly in a companion that shares its members.
-/

namespace Wiring

open Kotlin

/-! ## Counting in lists made of lists -/

theorem count_flatMap_of_nodup {α β : Type} [DecidableEq β] {list : List α} {f : α → List β}
    (h : ∀ a ∈ list, (f a).Nodup) (b : β) :
    (list.flatMap f).count b = (list.filter (b ∈ f ·)).length := by
  induction list with
  | nil => rfl
  | cons a rest ih =>
    obtain ⟨ha, hrest⟩ := List.forall_mem_cons.1 h
    rw [List.flatMap_cons, List.count_append, ih hrest, ha.count, List.filter_cons]
    by_cases hb : b ∈ f a
    · simp only [hb, if_true, decide_true, List.length_cons]
      omega
    · simp only [hb, if_false, decide_false, Bool.false_eq_true]
      omega

/-! ## The file of a class -/

namespace ClassDeclaration

variable (c : ClassDeclaration) (path : List Nat) (schema : Schema)

/-- The places of the markers of which the properties of the bindings of a class are made. -/
def boundPlaces : List MarkerPlace :=
  (c.markersAt path schema.providesBinding).map (·.1)

end ClassDeclaration

/-- The property that a marker asks for, if there is one at the place. -/
def CompilationUnit.boundPropertyAt? (unit : CompilationUnit) (schema : Schema)
    (place : MarkerPlace) : Option Property :=
  (unit.markerAt? schema.providesBinding place).map fun (member, ann) =>
    member.boundProperty schema (ann.givenClass "boundType" 0)

/-- The properties in the file of a class are those that its markers ask for, one after the
other. -/
theorem ClassDeclaration.map_boundPropertyAt? {c : ClassDeclaration} {unit : CompilationUnit}
    {path : List Nat} (h : unit.classAt? path = some c) (context : Context) :
    ((c.boundFile context).interfaces.flatMap (·.properties)).map some =
      (c.boundPlaces path context.schema).map (unit.boundPropertyAt? context.schema) := by
  have hfile : (c.boundFile context).interfaces.flatMap (·.properties) =
      (c.markersAt path context.schema.providesBinding).map fun entry =>
        entry.2.1.boundProperty context.schema (entry.2.2.givenClass "boundType" 0) := by
    rw [c.map_markersAt path context.schema.providesBinding fun member ann =>
      member.boundProperty context.schema (ann.givenClass "boundType" 0)]
    rw [boundFile, List.flatMap_singleton]
    rfl
  rw [hfile, boundPlaces, List.map_map, List.map_map]
  refine List.map_congr_left fun entry hentry => ?_
  have hfound := ((CompilationUnit.mem_markersAt h).1 hentry).2
  simp only [Function.comp_apply, CompilationUnit.boundPropertyAt?, hfound, Option.map_some]

/-! ## Counting the properties of a marker -/

namespace Pipeline

variable (pipeline : Pipeline) (unit : CompilationUnit)

/-- A companion object of which bindings are made and in which so are those of the class that it is
directly in. -/
def SharesMembers (path : List Nat) : Prop :=
  ∃ outer index c companion, path = outer ++ [index] ∧ companion.kind = .companionObject ∧
    (outer, c) ∈ pipeline.boundClasses unit ∧ (path, companion) ∈ pipeline.boundClasses unit

/-- The places of the markers of all properties in the files of bindings of a run. -/
def boundPlaces : List MarkerPlace :=
  (pipeline.boundClasses unit).flatMap fun entry =>
    entry.2.boundPlaces entry.1 pipeline.settings.schema

/-- The paths of the classes in whose files there is a property for a marker. -/
def binders (place : MarkerPlace) : List (List Nat) :=
  ((pipeline.boundClasses unit).filter fun entry =>
    place ∈ entry.2.boundPlaces entry.1 pipeline.settings.schema).map (·.1)

theorem count_boundPlaces (place : MarkerPlace) :
    (pipeline.boundPlaces unit).count place = (pipeline.binders unit place).length := by
  rw [boundPlaces, binders, List.length_map]
  exact count_flatMap_of_nodup (fun entry _ => entry.2.nodup_markersAt entry.1 _) place

theorem nodup_binders (place : MarkerPlace) : (pipeline.binders unit place).Nodup :=
  (pipeline.nodup_boundClasses unit).sublist (List.filter_sublist.map _)

theorem mem_binders {pipeline : Pipeline} {unit : CompilationUnit} {place : MarkerPlace}
    {path : List Nat} :
    path ∈ pipeline.binders unit place ↔
      (unit.markerAt? pipeline.settings.schema.providesBinding place).isSome ∧
        ∃ c, (path, c) ∈ pipeline.boundClasses unit ∧
          place.member.holder ∈ (c.holderPaths path).map (·.1) := by
  constructor
  · intro hpath
    obtain ⟨⟨path, c⟩, hentry, rfl⟩ := List.mem_map.1 hpath
    obtain ⟨hc, hplace⟩ := List.mem_filter.1 hentry
    obtain ⟨⟨place, found⟩, hfound, rfl⟩ := List.mem_map.1 (of_decide_eq_true hplace)
    obtain ⟨hholder, hfound⟩ := (CompilationUnit.mem_markersAt (mem_boundClasses hc)).1 hfound
    exact ⟨Option.isSome_of_eq_some hfound, c, hc, hholder⟩
  · rintro ⟨hsome, c, hc, hholder⟩
    obtain ⟨found, hfound⟩ := Option.isSome_iff_exists.1 hsome
    have hplace := (CompilationUnit.mem_markersAt (mem_boundClasses hc)).2 ⟨hholder, hfound⟩
    refine List.mem_map.2 ⟨(path, c), List.mem_filter.2 ⟨hc, ?_⟩, rfl⟩
    exact decide_eq_true (List.mem_map_of_mem hplace)

theorem eq_of_mem_binders {pipeline : Pipeline} {unit : CompilationUnit} {place : MarkerPlace}
    {path : List Nat} (h : path ∈ pipeline.binders unit place) :
    path = place.member.holder ∨ path = place.member.holder.dropLast := by
  obtain ⟨-, c, -, hholder⟩ := mem_binders.1 h
  rcases ClassDeclaration.mem_map_holderPaths.1 hholder with hself | ⟨index, companion, hnested, -⟩
  · exact .inl hself.symm
  · rw [hnested, List.dropLast_concat]
    exact .inr rfl

theorem length_binders_le {place : MarkerPlace} {paths : List (List Nat)}
    (h : pipeline.binders unit place ⊆ paths) :
    (pipeline.binders unit place).length ≤ paths.length :=
  (List.subperm_of_subset (pipeline.nodup_binders unit place) h).length_le

theorem length_binders_le_two (place : MarkerPlace) :
    (pipeline.binders unit place).length ≤ 2 := by
  have hpaths : pipeline.binders unit place ⊆
      [place.member.holder, place.member.holder.dropLast] := fun path hpath => by
    simpa using eq_of_mem_binders hpath
  exact pipeline.length_binders_le unit hpaths

/-- Of two binders one is different from any given class. -/
theorem exists_mem_binders_ne {place : MarkerPlace}
    (htwo : (pipeline.binders unit place).length = 2) (path : List Nat) :
    ∃ other ∈ pipeline.binders unit place, other ≠ path := by
  by_contra hnone
  push Not at hnone
  have hpaths : pipeline.binders unit place ⊆ [path] := fun other hother =>
    List.mem_singleton.2 (hnone other hother)
  have hlength := pipeline.length_binders_le unit hpaths
  rw [htwo, List.length_singleton] at hlength
  omega

/-- A marker of a class that is one of two binders is in a companion object in the other one. -/
theorem sharesMembers_of_mem_binders {pipeline : Pipeline} {unit : CompilationUnit}
    {place : MarkerPlace} {outer : List Nat} (houter : outer ∈ pipeline.binders unit place)
    (hself : place.member.holder ∈ pipeline.binders unit place)
    (hne : outer ≠ place.member.holder) : pipeline.SharesMembers unit place.member.holder := by
  obtain ⟨-, c, hc, hholder⟩ := mem_binders.1 houter
  obtain ⟨-, companion, hcompanion, -⟩ := mem_binders.1 hself
  rcases ClassDeclaration.mem_map_holderPaths.1 hholder with hself | ⟨index, nested, hpath, hnested⟩
  · exact absurd hself.symm hne
  · have hclass := mem_boundClasses hcompanion
    rw [hpath, CompilationUnit.classAt?_nested (mem_boundClasses hc), hnested.1] at hclass
    cases hclass
    exact ⟨outer, index, c, companion, hpath, hnested.2, hc, hcompanion⟩

theorem length_binders_eq_two (place : MarkerPlace) :
    (pipeline.binders unit place).length = 2 ↔
      (unit.markerAt? pipeline.settings.schema.providesBinding place).isSome ∧
        pipeline.SharesMembers unit place.member.holder := by
  constructor
  · intro htwo
    have hself : place.member.holder ∈ pipeline.binders unit place := by
      obtain ⟨path, hpath, hne⟩ :=
        pipeline.exists_mem_binders_ne unit htwo place.member.holder.dropLast
      rcases eq_of_mem_binders hpath with heq | heq
      · exact heq ▸ hpath
      · exact absurd heq hne
    obtain ⟨outer, houter, hne⟩ := pipeline.exists_mem_binders_ne unit htwo place.member.holder
    exact ⟨(mem_binders.1 hself).1, sharesMembers_of_mem_binders houter hself hne⟩
  · rintro ⟨hsome, outer, index, c, companion, hpath, hkind, hc, hcompanion⟩
    have hnested : c.nested[index]? = some companion := by
      rw [← CompilationUnit.classAt?_nested (mem_boundClasses hc), ← hpath]
      exact mem_boundClasses hcompanion
    have houter : outer ∈ pipeline.binders unit place := mem_binders.2 ⟨hsome, c, hc,
      ClassDeclaration.mem_map_holderPaths.2 (.inr ⟨index, companion, hpath, hnested, hkind⟩)⟩
    have hself : place.member.holder ∈ pipeline.binders unit place := mem_binders.2
      ⟨hsome, companion, hcompanion, ClassDeclaration.mem_map_holderPaths.2 (.inl rfl)⟩
    have hdistinct : [outer, place.member.holder].Nodup := by
      simp [hpath]
    have hpaths : [outer, place.member.holder] ⊆ pipeline.binders unit place := by
      simp [houter, hself]
    have hlength := (List.subperm_of_subset hdistinct hpaths).length_le
    exact Nat.le_antisymm (pipeline.length_binders_le_two unit place) hlength

end Pipeline

/-! ## All files of a run -/

/-- **A marker is bound at most twice.** The files of a run are those of the classes of which
bindings are made, and files that bind no members. Each property in the file of a class is the one
that a marker of the class asks for, one after the other. In all these files together a marker
occurs at most twice, and twice if and only if it stands in a companion object of which bindings are
made and so are those of the class that it is in. -/
theorem binding_at_most_twice (settings : Settings) (hierarchy : Option Hierarchy)
    (unit : CompilationUnit) (report : Report)
    (hreport : (({ hierarchy := hierarchy } : Setup).pipeline settings).run? unit = some report) :
    let pipeline := ({ hierarchy := hierarchy } : Setup).pipeline settings
    let file := fun c : ClassDeclaration => c.boundFile (pipeline.context unit)
    let bound := pipeline.boundClasses unit
    report.files.Perm
      (bound.map (fun entry => (file entry.2).toGenerated) ++ pipeline.furtherFiles unit) ∧
    (∀ further ∈ pipeline.furtherFiles unit, ∃ source : SourceFile,
      further = source.toGenerated ∧ source.BindsNoMember) ∧
    (∀ entry ∈ bound, ((file entry.2).interfaces.flatMap (·.properties)).map some =
      (entry.2.boundPlaces entry.1 settings.schema).map
        (unit.boundPropertyAt? settings.schema)) ∧
    ∀ place : MarkerPlace,
      let times := (pipeline.boundPlaces unit).count place
      times ≤ 2 ∧ (times = 2 ↔
        (unit.markerAt? settings.schema.providesBinding place).isSome ∧
          pipeline.SharesMembers unit place.member.holder) := by
  intro pipeline file bound
  refine ⟨Setup.perm_files hierarchy settings unit hreport,
    fun further => Setup.bindsNoMember_of_mem_furtherFiles, fun entry hentry => ?_,
    fun place => ?_⟩
  · exact ClassDeclaration.map_boundPropertyAt? (Pipeline.mem_boundClasses hentry) _
  · have hcount := pipeline.count_boundPlaces unit place
    refine ⟨?_, ?_⟩
    · exact hcount ▸ pipeline.length_binders_le_two unit place
    · exact hcount ▸ pipeline.length_binders_eq_two unit place

/-- A class that provides values, with a companion object of the given annotations in which a
repository is provided under a supertype. -/
def companionUnit (annotations : List Annotation) : CompilationUnit :=
  let repo : PropertyDeclaration := ⟨"repo", .ofClass ⟨"p.RepoImpl"⟩,
    [.ofName WellKnown.provides,
      ⟨({} : Schema).providesBinding, [⟨none, .classLiteral ⟨"p.Repository"⟩⟩], []⟩]⟩
  let companion := { ClassDeclaration.ofName "p" "M.Companion" with
    annotations := annotations
    properties := [repo] }
  let outer := (ClassDeclaration.ofName "p" "M").annotate (.ofName WellKnown.providerModule)
  (CompilationUnit.empty.withClass (outer.withCompanion companion)).withExternalSupertypes
    ⟨"p.RepoImpl"⟩ [⟨"p.Repository"⟩]

/-- The place of the marker in the companion object. -/
def companionMarker : MarkerPlace := ⟨⟨[0, 0], .property, 0⟩, 0⟩

/-- The marker is bound once if the companion object does not provide values itself. -/
theorem binding_once_in_companion :
    let pipeline := ({} : Setup).pipeline {}
    let unit := companionUnit []
    ∃ report, pipeline.run? unit = some report ∧ report.files.length = 1 ∧
      (pipeline.boundPlaces unit).count companionMarker = 1 ∧
      ¬pipeline.SharesMembers unit [0, 0] := by
  intro pipeline unit
  have hreport : pipeline.run? unit = some (pipeline.reference unit) :=
    Setup.run?_eq {} rfl (by decide) (by decide) unit
  obtain ⟨hfiles, -, -, htimes⟩ := binding_at_most_twice {} none unit _ hreport
  have honce : (pipeline.boundPlaces unit).count companionMarker = 1 := by
    decide
  refine ⟨_, hreport, ?_, honce, fun hshared => ?_⟩
  · rw [hfiles.length_eq]
    decide
  · have htwice := (htimes companionMarker).2.2 ⟨by decide, hshared⟩
    exact absurd (honce.symm.trans htwice) (by decide)

/-- **A marker may be bound twice**: if the companion object provides values as well, the property
stands in two files of the report, although settings and names are as they should be. -/
theorem binding_twice_in_shared_companion :
    let pipeline := ({} : Setup).pipeline {}
    let unit := companionUnit [.ofName WellKnown.providerModule]
    let file := fun c : ClassDeclaration => c.boundFile (pipeline.context unit)
    ({} : Settings).validate = .ok () ∧ (unit.allClasses.map (·.name)).Nodup ∧
      (pipeline.boundPlaces unit).count companionMarker = 2 ∧
      (pipeline.boundClasses unit).map (·.1) = [[0], [0, 0]] ∧
      ∃ report property, pipeline.run? unit = some report ∧
        unit.boundPropertyAt? {} companionMarker = some property ∧
        ∀ entry ∈ pipeline.boundClasses unit, (file entry.2).toGenerated ∈ report.files ∧
          property ∈ (file entry.2).interfaces.flatMap (·.properties) := by
  intro pipeline unit file
  have hreport : pipeline.run? unit = some (pipeline.reference unit) :=
    Setup.run?_eq {} rfl (by decide) (by decide) unit
  have hfiles := Setup.perm_files none {} unit hreport
  have hplaces : ∀ entry ∈ pipeline.boundClasses unit,
      companionMarker ∈ entry.2.boundPlaces entry.1 {} := by
    decide
  refine ⟨Settings.validate_default, by decide, by decide, by decide, _, _, hreport, rfl,
    fun entry hentry => ?_⟩
  refine ⟨hfiles.mem_iff.2 (List.mem_append_left _ (List.mem_map_of_mem hentry)), ?_⟩
  have hproperties := ClassDeclaration.map_boundPropertyAt? (Pipeline.mem_boundClasses hentry)
    (pipeline.context unit)
  have hproperty := List.mem_map_of_mem (f := unit.boundPropertyAt? {}) (hplaces entry hentry)
  exact (List.mem_map_of_injective fun _ _ => Option.some.inj).1 (hproperties.symm ▸ hproperty)

end Wiring
