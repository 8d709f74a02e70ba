import Wiring.Proofs.NameTable
import Wiring.Proofs.WrittenInterfaces

/-!
# Unambiguous files

Two files of one package that refer to the same classes have the same text only if they have the
same interfaces: nothing in an interface is lost when it is written.

* `SourceFile.IsNamed`: the names in a file are well-formed;
* `SourceFile.nameTable_congr`: the same classes are written in the same way;
* **`SourceFile.interfaces_eq_of_render_eq`**: files.
-/

namespace Wiring.Kotlin

open Text

/-- The classes that a file refers to have valid names in packages, and its interfaces have names of
their own. -/
structure SourceFile.IsNamed (file : SourceFile) : Prop where
  isValid : ∀ n ∈ file.classNames, n.isValid
  inPackage : ∀ n ∈ file.classNames, 2 ≤ n.segments.length
  interfaces : ∀ interface ∈ file.interfaces, interface.IsNamed

variable {names : NameTable} {known : List QualifiedName}

theorem sortedNames_congr {as bs : List QualifiedName} (h : ∀ n, n ∈ as ↔ n ∈ bs) :
    sortedNames as = sortedNames bs := by
  have hnodup : ∀ names, (sortedNames names).Nodup := by
    refine fun names => List.Pairwise.imp ?_ (pairwise_sortedNames names)
    rintro a _ hlt rfl
    exact QualifiedName.not_lt_self a hlt
  -- Sorted lists without repetitions that have the same members are equal.
  refine List.Perm.eq_of_pairwise (fun a b _ _ hab hba => ?_) (pairwise_sortedNames as)
    (pairwise_sortedNames bs) ((List.perm_ext_iff_of_nodup (hnodup as) (hnodup bs)).2 fun n => ?_)
  · exact absurd (QualifiedName.lt_trans hab hba) (QualifiedName.not_lt_self a)
  · rw [mem_sortedNames, mem_sortedNames, h]

theorem toList_renderInterfaces (interfaces : List Interface) :
    ("\n".intercalate (interfaces.map (Interface.render names))).toList =
      ['\n'].intercalate (interfaces.map (interfaceChars names)) := by
  have hinterface : String.toList ∘ Interface.render names = interfaceChars names :=
    funext toList_renderInterface
  rw [String.toList_intercalate, List.map_map, hinterface]
  rfl

/-- Interfaces are determined by the text of the file after its imports. -/
theorem interfaces_inj (hnames : names.Separates known) {as bs : List Interface}
    (has : ∀ a ∈ as, IsProperInterface known a) (hbs : ∀ b ∈ bs, IsProperInterface known b)
    (h : "\n".intercalate (as.map (Interface.render names)) =
      "\n".intercalate (bs.map (Interface.render names))) : as = bs := by
  have hends : True ∧ ¬['\n'] <+: [] ∧ ∀ interface s, IsProperInterface known interface →
      [] ≠ interfaceChars names interface ++ s :=
    ⟨trivial, by simp, fun interface s _ => by simp [interfaceChars, interfaceKeyword]⟩
  have htext : ['\n'].intercalate (as.map (interfaceChars names)) ++ [] =
      ['\n'].intercalate (bs.map (interfaceChars names)) ++ [] := by
    rw [← toList_renderInterfaces, ← toList_renderInterfaces, h]
  exact (determined_intercalate (fun _ => trivial)
    (fun a ha => ⟨has a ha, determined_interfaceChars hnames (has a ha)⟩) hbs hends hends htext).1

namespace SourceFile

variable {file other : SourceFile}

theorem nameTable_congr (hpackage : file.package = other.package)
    (hnames : ∀ n, n ∈ file.classNames ↔ n ∈ other.classNames) :
    file.nameTable = other.nameTable := by
  rw [nameTable, nameTable, NameTable.ofNames, NameTable.ofNames, hpackage,
    sortedNames_congr hnames]

theorem IsNamed.isProperInterface (h : file.IsNamed) (hnames : ∀ n ∈ file.classNames, n ∈ known) :
    ∀ interface ∈ file.interfaces, IsProperInterface known interface := fun interface hinterface =>
  ⟨h.interfaces interface hinterface, fun n hn =>
    hnames n (List.mem_flatMap.2 ⟨interface, hinterface, hn⟩)⟩

/-- **Files with the same text have the same interfaces**, if they lie in the same package and refer
to the same classes, and so that the arguments of their annotations are the same as well: no other
arguments have the code that an annotation is given. -/
theorem interfaces_eq_of_render_eq (hfile : file.IsNamed) (hother : other.IsNamed)
    (hpackage : file.package = other.package)
    (hnames : ∀ n, n ∈ file.classNames ↔ n ∈ other.classNames) (h : file.render = other.render) :
    file.interfaces = other.interfaces ∧
      ∀ interface ∈ file.interfaces, ∀ use ∈ interface.annotationUses, ∀ arguments arguments',
        use.HasArguments arguments → use.HasArguments arguments' → arguments = arguments' := by
  -- Both files have one table of names, so they begin with the same header and imports.
  have hseparates : file.nameTable.Separates file.classNames :=
    NameTable.separates_ofNames hfile.isValid hfile.inPackage
  have hproper : ∀ interface ∈ file.interfaces, IsProperInterface file.classNames interface :=
    hfile.isProperInterface fun _ hn => hn
  constructor
  · have hheader : other.packageHeader = file.packageHeader := by
      rw [packageHeader, packageHeader, hpackage]
    rw [render, render, hheader, ← nameTable_congr hpackage hnames] at h
    exact interfaces_inj hseparates hproper (hother.isProperInterface fun n => (hnames n).2)
      ((String.append_right_inj _).1 h)
  · intro interface hinterface use huse arguments arguments'
    exact arguments_unique hseparates ((hproper interface hinterface).isProperUse huse)

/-- Arguments with values of every kind, and with a text that has every delimiter in it. -/
def routeArguments : List AnnotationArgument :=
  [⟨some "path", .string "\", ]) $x\n"⟩,
    ⟨none, .array [.int (-3), .bool true, .array [], .classLiteral ⟨"q.Mode"⟩,
      .enumEntry ⟨"p.Mode"⟩ "FAST"]⟩]

/-- A file with a property and a function that extend receivers, and with two classes of one short
name. -/
def routesFile (name : String) : SourceFile where
  package := "app"
  name := name
  interfaces := [
    { name := "Routes"
      annotations := [.ofName ⟨"p.Module"⟩]
      properties := [⟨"in", .named ⟨"p.List"⟩ [.star, .ofClass ⟨"q.Mode"⟩] true,
        some (.named ⟨"app.Home"⟩ [] true),
        [⟨⟨"p.Route"⟩, routeArguments.map AnnotationUse.argumentCode, some .getter⟩]⟩]
      functions := [⟨"open", some (.ofClass ⟨"p.Mode"⟩), none, []⟩] },
    { name := "Empty", annotations := [], properties := [], functions := [] }]

theorem hasArguments_routeArguments (name : QualifiedName) (site : Option UseSite) :
    (AnnotationUse.mk name (routeArguments.map AnnotationUse.argumentCode) site).HasArguments
      routeArguments where
  members := rfl
  isNamed := by
    rw [routeArguments, List.forall_mem_cons, List.forall_mem_singleton]
    refine ⟨⟨by simp; decide, .string _⟩, ⟨by simp, .array _ ?_⟩⟩
    simp only [List.forall_mem_cons]
    exact ⟨.int _, .bool _, .array _ (by simp), .classLiteral _, .enumEntry _ _ (by decide),
      by simp⟩

theorem isNamed_routesFile (name : String) : (routesFile name).IsNamed where
  isValid := by
    change ∀ n ∈ (routesFile "").classNames, n.isValid
    decide
  inPackage := by
    change ∀ n ∈ (routesFile "").classNames, 2 ≤ n.segments.length
    decide
  interfaces := by
    rw [routesFile, List.forall_mem_cons, List.forall_mem_singleton]
    refine ⟨⟨by decide, by decide, by decide, ?_⟩, ⟨by decide, by decide, by decide, ?_⟩⟩
    · change ∀ use ∈ [AnnotationUse.ofName ⟨"p.Module"⟩, _], _
      rw [List.forall_mem_cons, List.forall_mem_singleton]
      exact ⟨⟨[], rfl, by simp⟩, ⟨routeArguments, hasArguments_routeArguments _ _⟩⟩
    · simp [Interface.annotationUses]

theorem interfaces_eq_of_render_eq_routes :
    (routesFile "Routes").IsNamed ∧ (routesFile "Copy").IsNamed ∧
      (routesFile "Routes").render = (routesFile "Copy").render ∧
      (routesFile "Routes").interfaces = (routesFile "Copy").interfaces := by
  have hrender : (routesFile "Routes").render = (routesFile "Copy").render := rfl
  exact ⟨isNamed_routesFile _, isNamed_routesFile _, hrender,
    (interfaces_eq_of_render_eq (isNamed_routesFile _) (isNamed_routesFile _) rfl
      (fun _ => .rfl) hrender).1⟩

end SourceFile

end Wiring.Kotlin
