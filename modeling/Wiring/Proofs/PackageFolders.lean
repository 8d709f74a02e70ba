import Mathlib.Data.List.Infix
import Wiring.Proofs.Layout
import Wiring.Proofs.OutputPaths

/-!
# Packages and folders

The package of a file is written twice: in the first line of its text, and in the folders of its
path. Both leave out the empty segments between dots, so the two agree, but the line is there as
soon as the package is not empty, even if nothing is left of it.

* `packageLine?`, `SourceFile.packageLine?_render`: the package line of a text, and which files have
  one;
* `unescape_packageText`, `segments_packageText`: the segments in the line;
* `Path.folders`, `Path.IsName`, `GeneratedFile.folders_relativePath`: the folders of a path;
* `SourceFile.MatchesFolders`, **`SourceFile.matchesFolders_iff`**: which files have the package of
  their folders;
* `SourceFile.dotted_package_line`: a file with an empty package line.
-/

namespace Wiring

/-! ## Folders -/

namespace Path

/-- The components of a path before the last one, of which the first is the root if the path is
absolute. -/
def folders (path : String) : List String :=
  (if isAbsolute path then ["/"] else []) ++ (parts path).dropLast

/-- Whether a path is a name of its own, without a folder. -/
def IsName (path : String) : Prop := isAbsolute path = false ∧ (parts path).length = 1

instance (path : String) : Decidable (IsName path) := inferInstanceAs (Decidable (_ ∧ _))

end Path

namespace Kotlin

theorem isPart_of_mem_packageSegments {package part : String} (hslash : '/' ∉ package.toList)
    (h : part ∈ packageSegments package) : Path.IsPart part := by
  obtain ⟨hsegment, hne⟩ := List.mem_filter.1 h
  have hdot := Text.not_mem_of_mem_segments hsegment
  refine ⟨by simpa using hne, ?_, ?_, ?_⟩
  · rintro rfl
    exact hdot (by decide)
  · rintro rfl
    exact hdot (by decide)
  · obtain ⟨cs, hcs, rfl⟩ := List.mem_map.1 hsegment
    rw [String.toList_ofList]
    exact fun hmem => hslash ((Text.sublist_of_mem_splitOn hcs).subset hmem)

end Kotlin

/-- **The folders of a file are the segments of its package** if and only if the name of the file
brings no folder of its own. -/
theorem GeneratedFile.folders_relativePath {file : GeneratedFile} (extension : String)
    (hslash : '/' ∉ file.package.toList) (hne : Kotlin.packageSegments file.package ≠ []) :
    Path.folders (file.relativePath extension) = Kotlin.packageSegments file.package ↔
      Path.IsName (file.fileName ++ "." ++ extension) := by
  obtain ⟨hparts, hfolder⟩ := Path.parts_ofParts_of_isPart fun part hpart =>
    Kotlin.isPart_of_mem_packageSegments hslash hpart
  rw [relativePath, Path.IsName]
  generalize file.fileName ++ "." ++ extension = last
  cases habsolute : Path.isAbsolute last with
  | true =>
    rw [Path.push, if_pos habsolute, Path.folders, if_pos habsolute]
    refine iff_of_false (fun hfolders => ?_) (by simp)
    -- No segment of the package is the root.
    have hroot : "/" ∈ Kotlin.packageSegments file.package := hfolders ▸ List.mem_cons_self
    exact (Kotlin.isPart_of_mem_packageSegments hslash hroot).slash (by decide)
  | false =>
    rw [Path.folders, Path.isAbsolute_push habsolute, hfolder, Path.parts_push habsolute, hparts,
      if_neg Bool.false_ne_true, List.nil_append, and_iff_right rfl]
    constructor
    · intro hfolders
      have hlength := congrArg List.length hfolders
      rw [List.length_dropLast, List.length_append] at hlength
      have hpos := List.length_pos_iff.2 hne
      omega
    · intro hone
      obtain ⟨name, hname⟩ := List.length_eq_one_iff.1 hone
      rw [hname, List.dropLast_concat]

/-! ## The package line -/

namespace Kotlin

open Text

/-- The name in the package line that a text starts with, if it does. -/
def packageLine? (text : String) : Option String :=
  (dropStart? "package ".toList (text.toList.takeWhile (· ≠ '\n'))).map String.ofList

theorem unescape_intercalate (parts : List String) :
    unescape (".".intercalate parts) = ".".intercalate (parts.map unescape) := by
  have hfilter := (Piecewise.filter (· ≠ '`')).intercalate ['.'] (parts.map String.toList)
  have hparts : (parts.map unescape).map String.toList =
      (parts.map String.toList).map (List.filter (· ≠ '`')) := by
    rw [List.map_map, List.map_map]
    exact List.map_congr_left fun part _ => String.toList_ofList
  rw [← String.toList_inj, unescape, String.toList_ofList, String.toList_intercalate,
    String.toList_intercalate, hparts]
  exact hfilter

/-- The segments in the package line, without their back-ticks, are those of the package. -/
theorem segments_packageText {package : String} (htick : '`' ∉ package.toList)
    (hne : packageSegments package ≠ []) :
    segments '.' (unescape (packageText package)) = packageSegments package := by
  have hsegment : ∀ part ∈ packageSegments package, unescape (escape part) = part := by
    intro part hpart
    obtain ⟨cs, hcs, rfl⟩ := List.mem_map.1 (List.mem_filter.1 hpart).1
    refine unescape_escape fun hmem => htick ((sublist_of_mem_splitOn hcs).subset ?_)
    rwa [String.toList_ofList] at hmem
  have hmap : ((packageSegments package).map escape).map unescape = packageSegments package := by
    rw [List.map_map]
    exact (List.map_congr_left hsegment).trans (List.map_id _)
  rw [packageText, unescape_intercalate, hmap]
  exact segments_intercalate hne fun part hpart =>
    not_mem_of_mem_segments (List.mem_filter.1 hpart).1

/-- The first line of an interface is for an annotation or for its head. -/
theorem Interface.exists_kind_of_mem_head? (interface : Interface) {line : Line}
    (h : line ∈ interface.layout.head?) : ∃ kind, line.kind? = some kind ∧ kind ≠ .package := by
  rw [layout] at h
  cases huses : interface.annotations with
  | nil =>
    rw [huses] at h
    cases h
    exact ⟨.interface, rfl, by decide⟩
  | cons use uses =>
    rw [huses] at h
    cases h
    exact ⟨.ownUse, rfl, by decide⟩

theorem Interface.layout_ne_nil (interface : Interface) : interface.layout ≠ [] := by
  simp [layout]

namespace SourceFile

variable {file : SourceFile}

/-- The first line of a file without a package is for something else. -/
theorem exists_kind_of_mem_head? (h : file.package = "") {line : Line}
    (hline : line ∈ file.layout.head?) : ∃ kind, line.kind? = some kind ∧ kind ≠ .package := by
  have hpackage : packageLayout file.package = [] := if_pos (by simp [h])
  rw [layout, hpackage, List.nil_append, importsLayout] at hline
  cases himports : file.nameTable.imports with
  | cons name rest =>
    rw [himports] at hline
    cases hline
    exact ⟨.imported, rfl, by decide⟩
  | nil =>
    rw [himports, List.isEmpty_nil, if_pos rfl, List.nil_append] at hline
    cases hinterfaces : file.interfaces with
    | nil =>
      rw [hinterfaces] at hline
      cases hline
    | cons interface rest =>
      refine interface.exists_kind_of_mem_head? ?_
      rw [hinterfaces, List.map_cons] at hline
      cases hrest : rest.map Interface.layout with
      | nil => rwa [hrest, List.intercalate_singleton] at hline
      | cons next others =>
        rw [hrest, List.intercalate_cons_cons, List.append_assoc,
          List.head?_append_of_ne_nil _ interface.layout_ne_nil] at hline
        exact hline

/-- The text of a file without a package does not begin like a package line. -/
theorem not_start_prefix_render (h : file.package = "") :
    ¬LineKind.package.start.toList <+: file.render.toList := by
  rw [render_eq_joinLines]
  cases hlayout : file.layout with
  | nil =>
    intro hprefix
    exact absurd (List.prefix_nil.1 hprefix) (by decide)
  | cons line rest =>
    obtain ⟨kind, hkind, hne⟩ := exists_kind_of_mem_head? h (hlayout ▸ List.head?_cons ..)
    obtain ⟨after, hafter⟩ := Line.exists_text_eq file.nameTable hkind
    have hstart :
        kind.start.toList <+: (joinLines (textsOf file.nameTable (line :: rest))).toList := by
      rw [textsOf, List.map_cons, joinLines_cons, hafter]
      simp only [String.toList_append, List.append_assoc]
      exact List.prefix_append _ _
    intro hprefix
    rcases List.prefix_or_prefix_of_prefix hprefix hstart with hle | hle
    · exact Line.not_start_prefix hne.symm hle
    · exact Line.not_start_prefix hne hle

/-- **A file has a package line if and only if its package is not empty**, even if nothing is left
of the package but dots. -/
theorem packageLine?_render (h : IsOneLine file.package) :
    packageLine? file.render =
      if file.package = "" then none else some (packageText file.package) := by
  split
  · next hempty =>
    rw [packageLine?, Option.map_eq_none_iff, Option.eq_none_iff_forall_ne_some]
    intro rest hrest
    have hfirst := dropStart?_eq_some_iff.1 hrest
    refine not_start_prefix_render hempty
      (List.IsPrefix.trans ?_ (List.takeWhile_prefix (· ≠ '\n')))
    rw [hfirst]
    exact List.prefix_append _ _
  · next hne =>
    have hline : ∀ c ∈ "package ".toList ++ (packageText file.package).toList,
        decide (c ≠ '\n') = true := by
      rw [List.forall_mem_append]
      refine ⟨List.all_eq_true.1 (by decide), fun c hc => decide_eq_true ?_⟩
      rintro rfl
      exact isOneLine_packageText h hc
    have htext : file.render.toList = ("package ".toList ++ (packageText file.package).toList) ++
        '\n' :: ("\n" ++ renderImports file.nameTable.imports ++
          "\n".intercalate (file.interfaces.map (Interface.render file.nameTable))).toList := by
      rw [render, packageHeader, if_neg (by simpa using hne)]
      simp
    have hdrop : dropStart? "package ".toList ("package ".toList ++
        (packageText file.package).toList) = some (packageText file.package).toList :=
      dropStart?_eq_some_iff.2 rfl
    rw [packageLine?, htext, List.takeWhile_append_of_pos hline,
      List.takeWhile_cons_of_neg (by simp), List.append_nil, hdrop, Option.map_some,
      String.ofList_toList]

end SourceFile

/-! ## Both together -/

/-- Whether something stands between the dots of a package. -/
def HasSegment (package : String) : Prop := ∃ segment ∈ segments '.' package, segment ≠ ""

instance (package : String) : Decidable (HasSegment package) :=
  inferInstanceAs (Decidable (∃ segment ∈ segments '.' package, segment ≠ ""))

theorem hasSegment_iff {package : String} : HasSegment package ↔ packageSegments package ≠ [] := by
  simp [HasSegment, packageSegments]

theorem not_hasSegment_empty : ¬HasSegment "" := by decide

namespace SourceFile

variable {file : SourceFile} {extension : String}

/-- The package line of a file says what its folders say: it is there if the package has a segment,
and then the segments in it, without back-ticks, are the folders of the file's path. -/
structure MatchesFolders (file : SourceFile) (extension : String) : Prop where
  line : (packageLine? file.render).isSome ↔ HasSegment file.package
  folders : HasSegment file.package → ∃ name, packageLine? file.render = some name ∧
    segments '.' (unescape name) = Path.folders (file.toGenerated.relativePath extension)

/-- **Which files have the package of their folders**: those without a package, and those whose
package has a segment between its dots, unless the name of the file brings a folder of its own.
Leading, trailing and doubled dots do not matter, but dots alone make an empty package line. -/
theorem matchesFolders_iff (file : SourceFile) (extension : String)
    (h : ∀ c ∈ ['`', '/', '\n'], c ∉ file.package.toList) :
    file.MatchesFolders extension ↔ file.package = "" ∨
      HasSegment file.package ∧ Path.IsName (file.name ++ "." ++ extension) := by
  have hline : packageLine? file.render =
      if file.package = "" then none else some (packageText file.package) :=
    packageLine?_render (h '\n' (by simp))
  have htick : '`' ∉ file.package.toList := h '`' (by simp)
  have hslash : '/' ∉ file.toGenerated.package.toList := h '/' (by simp)
  by_cases hempty : file.package = ""
  · rw [if_pos hempty] at hline
    have hnone : ¬HasSegment file.package := hempty ▸ not_hasSegment_empty
    exact iff_of_true ⟨by simp [hline, hnone], fun hsegment => absurd hsegment hnone⟩ (.inl hempty)
  · rw [if_neg hempty] at hline
    rw [or_iff_right hempty]
    constructor
    · intro hmatches
      have hsegment : HasSegment file.package := hmatches.line.1 (by simp [hline])
      have hne := hasSegment_iff.1 hsegment
      obtain ⟨name, hname, hfolders⟩ := hmatches.folders hsegment
      rw [hline, Option.some_inj] at hname
      rw [← hname, segments_packageText htick hne] at hfolders
      exact ⟨hsegment, (GeneratedFile.folders_relativePath extension hslash hne).1 hfolders.symm⟩
    · rintro ⟨hsegment, hname⟩
      have hne := hasSegment_iff.1 hsegment
      refine ⟨iff_of_true (by simp [hline]) hsegment, fun _ => ⟨_, hline, ?_⟩⟩
      rw [segments_packageText htick hne]
      exact ((GeneratedFile.folders_relativePath extension hslash hne).2 hname).symm

/-- An empty interface in a package. -/
def routesIn (package : String) : SourceFile := ⟨package, "Routes", [⟨"Routes", [], [], []⟩]⟩

/-- A package with a keyword in it and too many dots. -/
theorem matchesFolders_keyword :
    (∀ c ∈ ['`', '/', '\n'], c ∉ (routesIn "..app.in..").package.toList) ∧
      packageText (routesIn "..app.in..").package = "app.`in`" ∧
      (routesIn "..app.in..").MatchesFolders "kt" := by
  have hpackage : ∀ c ∈ ['`', '/', '\n'], c ∉ (routesIn "..app.in..").package.toList := by
    rw [List.forall_mem_cons, List.forall_mem_cons, List.forall_mem_singleton]
    decide
  have hsegment : HasSegment (routesIn "..app.in..").package := by decide
  have hname : Path.IsName ((routesIn "..app.in..").name ++ "." ++ "kt") := by decide
  exact ⟨hpackage, by decide, (matchesFolders_iff _ "kt" hpackage).2 (.inr ⟨hsegment, hname⟩)⟩

/-- **A package line may be empty**: dots alone are a package without a segment, and the line is
written nevertheless. -/
theorem dotted_package_line :
    (∀ c ∈ ['`', '/', '\n'], c ∉ (routesIn ".").package.toList) ∧
      (routesIn ".").render = "package \n\npublic interface Routes\n" ∧
      ¬HasSegment (routesIn ".").package ∧ ¬(routesIn ".").MatchesFolders "kt" := by
  have hpackage : ∀ c ∈ ['`', '/', '\n'], c ∉ (routesIn ".").package.toList := by
    rw [List.forall_mem_cons, List.forall_mem_cons, List.forall_mem_singleton]
    decide
  have hnone : ¬HasSegment (routesIn ".").package := by decide
  have hline : (packageLine? (routesIn ".").render).isSome := by
    rw [packageLine?_render (by decide), if_neg (by decide)]
    rfl
  exact ⟨hpackage, by decide, hnone, fun hmatches => hnone (hmatches.line.1 hline)⟩

end SourceFile

end Kotlin

end Wiring
