import Mathlib.Data.List.Forall2
import Mathlib.Data.List.Nodup
import Wiring.Proofs.ProvisionsPass

/-!
# Markers that are kept

Annotations are picked by the name of one kind of markers, but each is read as a marker of the first
kind that has its name. The two kinds are one as long as no two kinds share a name, and then every
annotation that is picked gives a marker of that kind or ends the work. Otherwise markers would be
lost without a failure.

* `bind_eq_error`, `mapM_eq_ok_iff`, `mapM_eq_error_iff`: when work on the members of a list
  succeeds, and where it fails;
* `Schema.markerName_inj`, `Schema.kind?_eq_some`: names tell kinds apart;
* `Schema.markers_eq_mapM`: reading markers reads each annotation as one of the kind;
* `Member.binding?_ne_none`, `Marker.provision?_ne_none`: markers of the right kind are used;
* **`Schema.markers_exact`**: no marker is lost.
-/

namespace Wiring

/-! ## Work on the members of a list -/

section

variable {ε α β : Type} {failure : ε}

/-- Work in two parts fails as the first part does, or else as the second one does. -/
theorem bind_eq_error {work : Except ε α} {f : α → Except ε β} :
    work >>= f = .error failure ↔
      work = .error failure ∨ ∃ a, work = .ok a ∧ f a = .error failure := by
  cases work with
  | error other => simp [bind, Except.bind]
  | ok a => simp [bind, Except.bind]

variable {f : α → Except ε β} {list : List α}

/-- Work on the members of a list gives what it gives on each of them. -/
theorem mapM_eq_ok_iff {results : List β} :
    list.mapM f = .ok results ↔ List.Forall₂ (fun a b => f a = .ok b) list results := by
  induction list generalizing results with
  | nil => cases results <;> simp [pure, Except.pure]
  | cons a rest ih =>
    rw [List.mapM_cons, bind_eq_ok, List.forall₂_cons_left_iff]
    refine exists_congr fun b => ⟨?_, ?_⟩
    · rintro ⟨ha, hrest⟩
      obtain ⟨others, hothers, hresults⟩ := bind_eq_ok.1 hrest
      exact ⟨others, ha, ih.1 hothers, (Except.ok.inj hresults).symm⟩
    · rintro ⟨others, ha, hothers, rfl⟩
      exact ⟨ha, bind_eq_ok.2 ⟨others, ih.2 hothers, rfl⟩⟩

/-- Work on the members of a list succeeds if and only if it does on all of them. -/
theorem exists_mapM_eq_ok_iff :
    (∃ results, list.mapM f = .ok results) ↔ ∀ a ∈ list, ∃ b, f a = .ok b := by
  induction list with
  | nil => exact iff_of_true ⟨[], rfl⟩ (List.forall_mem_nil _)
  | cons a rest ih =>
    rw [List.forall_mem_cons, ← ih]
    simp only [mapM_eq_ok_iff, List.forall₂_cons_left_iff]
    constructor
    · rintro ⟨-, b, others, ha, hothers, -⟩
      exact ⟨⟨b, ha⟩, others, hothers⟩
    · rintro ⟨⟨b, ha⟩, others, hothers⟩
      exact ⟨b :: others, b, others, ha, hothers, rfl⟩

/-- Work on the members of a list fails as it does on the first member that it fails on. -/
theorem mapM_eq_error_iff :
    list.mapM f = .error failure ↔ ∃ before a after, list = before ++ a :: after ∧
      (∀ earlier ∈ before, ∃ b, f earlier = .ok b) ∧ f a = .error failure := by
  induction list with
  | nil => simp [pure, Except.pure]
  | cons first rest ih =>
    rw [List.mapM_cons, bind_eq_error]
    constructor
    · rintro (hfirst | ⟨b, hfirst, hrest⟩)
      · exact ⟨[], first, rest, rfl, List.forall_mem_nil _, hfirst⟩
      · rcases bind_eq_error.1 hrest with hrest | ⟨others, -, hpure⟩
        · obtain ⟨before, a, after, rfl, hbefore, ha⟩ := ih.1 hrest
          exact ⟨first :: before, a, after, rfl, List.forall_mem_cons.2 ⟨⟨b, hfirst⟩, hbefore⟩, ha⟩
        · cases hpure
    · rintro ⟨before, a, after, hlist, hbefore, ha⟩
      cases before with
      | nil =>
        obtain ⟨rfl, rfl⟩ := List.cons.inj hlist
        exact .inl ha
      | cons earlier before =>
        obtain ⟨rfl, rfl⟩ := List.cons.inj hlist
        obtain ⟨⟨b, hfirst⟩, hbefore⟩ := List.forall_mem_cons.1 hbefore
        exact .inr ⟨b, hfirst, bind_eq_error.2 (.inl (ih.2 ⟨before, a, after, rfl, hbefore, ha⟩))⟩

/-- Results that are all there can be taken out of their options. -/
theorem map_filterMap_mapM {f : α → Except ε (Option β)} {g : α → Except ε β} {list : List α}
    (h : ∀ a ∈ list, f a = (g a).map some) :
    (list.mapM f).map (·.filterMap id) = list.mapM g := by
  induction list with
  | nil => rfl
  | cons a rest ih =>
    obtain ⟨ha, hrest⟩ := List.forall_mem_cons.1 h
    rw [List.mapM_cons, List.mapM_cons, ha, ← ih hrest]
    cases g a with
    | error failure => rfl
    | ok b => cases rest.mapM f <;> rfl

end

/-! ## Kinds of markers -/

theorem name_of_mem_annotationsOf {annotations : List Annotation} {name : QualifiedName}
    {ann : Annotation} (h : ann ∈ annotationsOf annotations name) : ann.name = name :=
  eq_of_beq (List.mem_filter.1 h).2

namespace Schema

variable {schema : Schema} {ann : Annotation} {element : Element} {kind : MarkerKind}

theorem mem_all (kind : MarkerKind) : kind ∈ MarkerKind.all := by
  cases kind <;> decide

/-- Kinds with one name are one kind. -/
theorem markerName_inj (h : schema.hasDistinctMarkers) {a b : MarkerKind} :
    schema.markerName a = schema.markerName b ↔ a = b := by
  rw [hasDistinctMarkers, decide_eq_true_iff] at h
  exact ⟨fun hname => List.inj_on_of_nodup_map h (mem_all a) (mem_all b) hname,
    congrArg schema.markerName⟩

/-- An annotation with the name of a kind is taken for a marker of this kind. -/
theorem kind?_eq_some (h : schema.hasDistinctMarkers) (hann : ann.name = schema.markerName kind) :
    schema.kind? ann = some kind := by
  have hsame : (fun other => schema.markerName other == ann.name) = (· == kind) := by
    funext other
    rw [hann, Bool.eq_iff_iff, beq_iff_eq, beq_iff_eq, markerName_inj h]
  rw [kind?, hsame]
  cases kind <;> rfl

theorem kind_of_parseAs {marker : Marker} (h : schema.parseAs ann element kind = .ok marker) :
    marker.kind = kind := by
  cases kind with
  | contribution =>
    cases h
    rfl
  | _ =>
    rw [parseAs, requiredClass] at h
    cases hclass : ann.classArgument? _ 0 <;> rw [hclass] at h <;> cases h
    rfl

/-- An annotation that cannot be read lacks a class that it has to give. -/
theorem exists_missing_of_parseAs {failure : Failure}
    (h : schema.parseAs ann element kind = .error failure) :
    ∃ parameter, ann.classArgument? parameter 0 = none ∧
      failure = .annotationInvalid element ann.name
        ("缺少类字面量参数 `" ++ parameter ++ "`") := by
  cases kind with
  | contribution => cases h
  | _ =>
    rw [parseAs, requiredClass] at h
    cases hclass : ann.classArgument? _ 0 <;> rw [hclass] at h <;> cases h
    exact ⟨_, hclass, rfl⟩

theorem parse_eq (h : schema.hasDistinctMarkers) (hann : ann.name = schema.markerName kind) :
    schema.parse ann element = (schema.parseAs ann element kind).map some := by
  rw [parse, kind?_eq_some h hann]

/-- Markers are read as those of the kind whose name picks them. -/
theorem markers_eq_mapM (h : schema.hasDistinctMarkers) (annotations : List Annotation) :
    schema.markers annotations kind element =
      (annotationsOf annotations (schema.markerName kind)).mapM
        (schema.parseAs · element kind) :=
  map_filterMap_mapM fun _ hann => parse_eq h (name_of_mem_annotationsOf hann)

end Schema

/-! ## What is made of markers -/

/-- A binding marker on a member gives a binding or a failure. -/
theorem Member.binding?_ne_none (member : Member) (schema : Schema) (hierarchy : Hierarchy)
    {marker : Marker} (h : marker.kind = .providesBinding) :
    member.binding? schema hierarchy marker ≠ .ok none := by
  cases marker with
  | providesBinding bound =>
    intro hnone
    obtain ⟨-, -, hsome⟩ := bind_eq_ok.1 hnone
    cases hsome
  | contribution scope name => cases h
  | autoWire scope => cases h

/-- A publishing marker gives a provision. -/
theorem Marker.provision?_ne_none {marker : Marker} (h : marker.kind = .contribution)
    (defaultName : String) (type : TypeRef) (qualifiers : List Annotation) (element : Element) :
    marker.provision? defaultName type qualifiers element ≠ none := by
  cases marker with
  | contribution scope name => exact Option.some_ne_none _
  | providesBinding bound => cases h
  | autoWire scope => cases h

/-! ## All markers -/

namespace Schema

variable {schema : Schema} {ann : Annotation} {element : Element} {kind : MarkerKind}

/-- An annotation with the name of a kind can be read if it can be read as a marker of this kind. -/
theorem exists_parse_eq_ok_iff (h : schema.hasDistinctMarkers)
    (hann : ann.name = schema.markerName kind) :
    (∃ read, schema.parse ann element = .ok read) ↔
      ∃ marker, schema.parseAs ann element kind = .ok marker := by
  rw [parse_eq h hann]
  cases schema.parseAs ann element kind with
  | error failure =>
    refine iff_of_false ?_ ?_ <;>
    · rintro ⟨_, hok⟩
      cases hok
  | ok marker => exact iff_of_true ⟨_, rfl⟩ ⟨_, rfl⟩

theorem parse_eq_error_iff (h : schema.hasDistinctMarkers)
    (hann : ann.name = schema.markerName kind) {failure : Failure} :
    schema.parse ann element = .error failure ↔
      schema.parseAs ann element kind = .error failure := by
  rw [parse_eq h hann]
  cases schema.parseAs ann element kind <;> simp [Except.map]

section

variable (h : schema.hasDistinctMarkers) {annotations : List Annotation}
include h

/-- The markers of a kind can be read if each annotation with its name can. -/
theorem exists_markers_eq_ok_iff :
    (∃ markers, schema.markers annotations kind element = .ok markers) ↔
      ∀ ann ∈ annotationsOf annotations (schema.markerName kind),
        ∃ read, schema.parse ann element = .ok read := by
  rw [markers_eq_mapM h, exists_mapM_eq_ok_iff]
  exact forall₂_congr fun ann hann =>
    (exists_parse_eq_ok_iff h (name_of_mem_annotationsOf hann)).symm

/-- Reading the markers of a kind fails at the first annotation with its name that cannot be read,
for lack of a class that it has to give. -/
theorem markers_eq_error_iff {failure : Failure} :
    schema.markers annotations kind element = .error failure ↔ ∃ before ann after,
      annotationsOf annotations (schema.markerName kind) = before ++ ann :: after ∧
      (∀ earlier ∈ before, ∃ read, schema.parse earlier element = .ok read) ∧
      schema.parse ann element = .error failure ∧
      ∃ parameter, ann.classArgument? parameter 0 = none ∧
        failure = .annotationInvalid element ann.name
          ("缺少类字面量参数 `" ++ parameter ++ "`") := by
  rw [markers_eq_mapM h, mapM_eq_error_iff]
  refine exists_congr fun before => exists_congr fun ann => exists_congr fun after =>
    and_congr_right fun hnamed => ?_
  have hname : ∀ other ∈ before ++ ann :: after, other.name = schema.markerName kind :=
    hnamed ▸ fun other hother => name_of_mem_annotationsOf hother
  refine and_congr (forall₂_congr fun earlier hearlier => ?_) ?_
  · exact (exists_parse_eq_ok_iff h (hname earlier (List.mem_append_left _ hearlier))).symm
  · rw [parse_eq_error_iff h (hname ann (by simp))]
    exact (and_iff_left_of_imp exists_missing_of_parseAs).symm

/-- The markers of a kind that are read are those of the annotations with its name, one by one. -/
theorem forall₂_markers {markers : List Marker}
    (hmarkers : schema.markers annotations kind element = .ok markers) :
    List.Forall₂ (fun ann marker => schema.parse ann element = .ok (some marker) ∧
      marker.kind = kind) (annotationsOf annotations (schema.markerName kind)) markers := by
  rw [markers_eq_mapM h, mapM_eq_ok_iff] at hmarkers
  have hnamed := (List.forall₂_and_left _ _).2
    ⟨fun ann hann => name_of_mem_annotationsOf hann, hmarkers⟩
  refine hnamed.imp fun ann marker ⟨hname, hmarker⟩ => ⟨?_, kind_of_parseAs hmarker⟩
  rw [parse_eq h hname, hmarker]
  rfl

theorem kind_of_mem_markers {markers : List Marker}
    (hmarkers : schema.markers annotations kind element = .ok markers) {marker : Marker}
    (hmem : marker ∈ markers) : marker.kind = kind := by
  have hkinds := (forall₂_markers h hmarkers).flip.imp fun _ _ hread => hread.symm
  exact ((List.forall₂_and_left _ _).1 hkinds).1 marker hmem

end

/-- **No marker is lost.** If no two kinds of markers share a name, the markers of a kind can be
read exactly if each annotation with the name of the kind can be read; otherwise reading them fails
at the first one that cannot, and says so. What is read is one marker of this kind for each of these
annotations, in their order. So each binding marker on a member gives a binding unless it fails,
each publishing marker gives a provision, and a class with a publishing marker has provisions. -/
theorem markers_exact (schema : Schema) (h : schema.hasDistinctMarkers) :
    (∀ (annotations : List Annotation) (kind : MarkerKind) (element : Element),
      let named := annotationsOf annotations (schema.markerName kind)
      let result := schema.markers annotations kind element
      ((∃ markers, result = .ok markers) ↔
        ∀ ann ∈ named, ∃ read, schema.parse ann element = .ok read) ∧
      (∀ failure, result = .error failure ↔ ∃ before ann after, named = before ++ ann :: after ∧
        (∀ earlier ∈ before, ∃ read, schema.parse earlier element = .ok read) ∧
        schema.parse ann element = .error failure ∧
        ∃ parameter, ann.classArgument? parameter 0 = none ∧
          failure = .annotationInvalid element ann.name
            ("缺少类字面量参数 `" ++ parameter ++ "`")) ∧
      ∀ markers, result = .ok markers → List.Forall₂ (fun ann marker =>
        schema.parse ann element = .ok (some marker) ∧ marker.kind = kind) named markers) ∧
    (∀ (member : Member) (hierarchy : Hierarchy) (markers : List Marker),
      schema.markers member.annotations .providesBinding member.element = .ok markers →
        ∀ marker ∈ markers, member.binding? schema hierarchy marker ≠ .ok none) ∧
    (∀ (annotations : List Annotation) (element : Element) (markers : List Marker),
      schema.markers annotations .contribution element = .ok markers →
        ∀ marker ∈ markers, ∀ defaultName type qualifiers,
          marker.provision? defaultName type qualifiers element ≠ none) ∧
    ∀ c : ClassDeclaration, isAnnotatedWith c.annotations schema.contribution →
      ∃ provisions, c.provisions schema = .ok provisions ∧ provisions ≠ [] := by
  refine ⟨fun annotations kind element => ⟨exists_markers_eq_ok_iff h,
    fun failure => markers_eq_error_iff h, fun markers => forall₂_markers h⟩,
    fun member hierarchy markers hmarkers marker hmem => ?_,
    fun annotations element markers hmarkers marker hmem defaultName type qualifiers => ?_,
    fun c hmarked => ?_⟩
  · exact member.binding?_ne_none schema hierarchy (kind_of_mem_markers h hmarkers hmem)
  · exact marker.provision?_ne_none (kind_of_mem_markers h hmarkers hmem) _ _ _ _
  · refine ⟨_, (schema.yields_provisions h c.annotations c.provisionName c.asType c.element _).2
      ⟨trivial, rfl⟩, fun hnone => ?_⟩
    rw [markedProvisions, List.map_eq_nil_iff, annotationsOf_eq_nil, hmarked] at hnone
    cases hnone

/-- A marker for injection in a scope. -/
def injectionMarker (parameter : Option String) (scope : AnnotationValue) : Annotation :=
  ⟨({} : Schema).autoWire, [⟨parameter, scope⟩], []⟩

/-- Two markers for injection, with one for publishing between them. -/
def injectedTwice (scope : AnnotationValue) : List Annotation :=
  [injectionMarker none (.classLiteral ⟨"p.App"⟩), .ofName ({} : Schema).contribution,
    injectionMarker (some "scope") scope]

/-- Both markers are read, around the one of another kind, and a scope that is a text is refused. -/
theorem markers_exact_injectedTwice :
    let schema : Schema := {}
    let element : Element := ⟨⟨"p.Login"⟩, none⟩
    schema.hasDistinctMarkers ∧
    (∃ markers, schema.markers (injectedTwice (.classLiteral ⟨"p.User"⟩)) .autoWire element =
      .ok markers ∧ markers.map Marker.kind = [.autoWire, .autoWire]) ∧
    schema.markers (injectedTwice (.string "p.User")) .autoWire element =
      .error (.annotationInvalid element schema.autoWire "缺少类字面量参数 `scope`") := by
  intro schema element
  have hschema : schema.hasDistinctMarkers := by decide
  refine ⟨hschema, ?_, ?_⟩
  · obtain ⟨hok, -, hmarkers⟩ := (markers_exact schema hschema).1
      (injectedTwice (.classLiteral ⟨"p.User"⟩)) .autoWire element
    obtain ⟨markers, hresult⟩ := hok.2
      (List.forall_mem_cons.2 ⟨⟨_, rfl⟩, List.forall_mem_singleton.2 ⟨_, rfl⟩⟩)
    have hkinds := (hmarkers markers hresult).imp fun _ _ hboth => hboth.2.symm
    have hmap := List.forall₂_map_left_iff.2 (List.forall₂_map_right_iff.2 hkinds)
    rw [List.forall₂_eq_eq_eq] at hmap
    exact ⟨markers, hresult, hmap.symm⟩
  · obtain ⟨-, herror, -⟩ := (markers_exact schema hschema).1
      (injectedTwice (.string "p.User")) .autoWire element
    exact (herror _).2 ⟨[injectionMarker none (.classLiteral ⟨"p.App"⟩)],
      injectionMarker (some "scope") (.string "p.User"), [], rfl,
      List.forall_mem_singleton.2 ⟨_, rfl⟩, rfl, "scope", rfl, rfl⟩

end Schema

end Wiring
