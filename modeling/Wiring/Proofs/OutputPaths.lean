import Wiring.GeneratedFile
import Wiring.Proofs.Names
import Wiring.Settings.Validation

/-!
# Paths of generated files

The parts of a path that is put together are the parts of its pieces, so the path of a generated
file tells the package and the name of the file.

* `Path.IsPart`: the names that stand for themselves in a path;
* `Path.parts_push`, `Path.parts_push_push`: the parts of a path with a part added;
* `Path.isAbsolute_ofParts`, `Path.parts_ofParts`: a path that is put together from pieces;
* `GeneratedFile.IsNamed`, `GeneratedFile.parts_relativePath`: the parts of a file's path;
* **`GeneratedFile.relativePath_inj`**: files of one path have one package and one name.
-/

namespace Wiring

namespace Path

/-! ## Adding parts -/

/-- A name that stands for itself in a path. -/
structure IsPart (part : String) : Prop where
  ne_empty : part ≠ ""
  ne_dot : part ≠ "."
  ne_dots : part ≠ ".."
  slash : '/' ∉ part.toList

theorem parts_append (a b : String) : parts (a ++ "/" ++ b) = parts a ++ parts b := by
  rw [parts, Text.segments_append '/' a b rfl, List.filter_append, parts, parts]

theorem parts_empty : parts "" = [] := by decide

theorem parts_of_isPart {part : String} (h : IsPart part) : parts part = [part] := by
  have hdot := h.ne_dot
  have hempty := h.ne_empty
  rw [parts, Text.segments_eq_singleton h.slash]
  simp [hdot, hempty]

theorem not_isAbsolute_of_isPart {part : String} (h : IsPart part) : isAbsolute part = false := by
  rw [isAbsolute, decide_eq_false_iff_not]
  intro hhead
  exact h.slash (List.mem_of_head? hhead)

theorem exists_eq_append_slash {path : String} (h : path.toList.getLast? = some '/') :
    ∃ before, path = before ++ "/" := by
  obtain ⟨cs, hcs⟩ := List.getLast?_eq_some_iff.1 h
  refine ⟨String.ofList cs, ?_⟩
  rw [← String.toList_inj, hcs]
  simp

/-- The parts of a path with a part added are its own and those of the part. -/
theorem parts_push {path part : String} (h : isAbsolute part = false) :
    parts (push path part) = parts path ++ parts part := by
  rw [push, h, if_neg Bool.false_ne_true]
  by_cases hempty : path = ""
  · subst hempty
    rw [parts_empty]
    simp
  · by_cases hlast : path.toList.getLast? = some '/'
    · rw [if_pos (by simp [hlast])]
      obtain ⟨before, rfl⟩ := exists_eq_append_slash hlast
      have hbefore := parts_append before ""
      rw [String.append_empty, parts_empty, List.append_nil] at hbefore
      rw [parts_append, hbefore]
    · rw [if_neg (by simp [hempty, hlast]), parts_append]

/-- The beginning of a text tells whether it is absolute. -/
theorem isAbsolute_append {path : String} (h : path ≠ "") (more : String) :
    isAbsolute (path ++ more) = isAbsolute path := by
  obtain ⟨c, cs, hcs⟩ := List.exists_cons_of_ne_nil (by simpa using h : path.toList ≠ [])
  rw [isAbsolute, isAbsolute, String.toList_append, hcs]
  rfl

theorem isAbsolute_append_of_relative (path : String) {more : String}
    (h : isAbsolute more = false) : isAbsolute (path ++ more) = isAbsolute path := by
  by_cases hempty : path = ""
  · rw [hempty, String.empty_append, h]
    rfl
  · exact isAbsolute_append hempty more

theorem isAbsolute_push {path part : String} (h : isAbsolute part = false) :
    isAbsolute (push path part) = isAbsolute path := by
  rw [push, h, if_neg Bool.false_ne_true]
  split
  · exact isAbsolute_append_of_relative path h
  · next hslash =>
    have hempty : path ≠ "" := fun hempty => hslash (by simp [hempty])
    rw [String.append_assoc, isAbsolute_append hempty]

theorem isAbsolute_push_eq (path part : String) :
    isAbsolute (push path part) = (isAbsolute path || isAbsolute part) := by
  cases h : isAbsolute part with
  | false => rw [isAbsolute_push h, Bool.or_false]
  | true => rw [push, if_pos h, h, Bool.or_true]

/-- A path is absolute if and only if one of the pieces is that it is put together from. -/
theorem isAbsolute_ofParts (names : List String) :
    isAbsolute (ofParts names) = names.any isAbsolute := by
  have hfold : ∀ start,
      isAbsolute (names.foldl push start) = (isAbsolute start || names.any isAbsolute) := by
    induction names with
    | nil => exact fun start => (Bool.or_false _).symm
    | cons name rest ih =>
      intro start
      rw [List.foldl_cons, ih, isAbsolute_push_eq, List.any_cons, Bool.or_assoc]
  exact hfold ""

/-- A path that is not absolute and stands after two others has its parts after theirs. -/
theorem parts_push_push (workingFolder root : String) {path : String}
    (h : isAbsolute path = false) :
    parts (push workingFolder (push root path)) =
      parts (push workingFolder root) ++ parts path := by
  have hroot : isAbsolute (push root path) = isAbsolute root := isAbsolute_push h
  by_cases habsolute : isAbsolute root = true
  · rw [push, hroot, if_pos habsolute, parts_push h, push, if_pos habsolute]
  · rw [Bool.not_eq_true] at habsolute
    rw [habsolute] at hroot
    rw [parts_push hroot, parts_push h, parts_push habsolute, List.append_assoc]

/-- The parts of a path are those of the pieces that it is put together from, unless one of these is
absolute. -/
theorem parts_ofParts {names : List String} (h : ∀ name ∈ names, isAbsolute name = false) :
    parts (ofParts names) = names.flatMap parts := by
  have hfold : ∀ start, parts (names.foldl push start) = parts start ++ names.flatMap parts := by
    induction names with
    | nil => exact fun start => (List.append_nil _).symm
    | cons name rest ih =>
      intro start
      obtain ⟨hname, hrest⟩ := List.forall_mem_cons.1 h
      rw [List.foldl_cons, ih hrest, parts_push hname, List.append_assoc, List.flatMap_cons]
  have hempty := hfold ""
  rwa [parts_empty, List.nil_append] at hempty

/-- The parts of a path that is put together from names that stand for themselves are these names. -/
theorem parts_ofParts_of_isPart {names : List String} (h : ∀ name ∈ names, IsPart name) :
    parts (ofParts names) = names ∧ isAbsolute (ofParts names) = false := by
  have hrelative : ∀ name ∈ names, isAbsolute name = false :=
    fun name hname => not_isAbsolute_of_isPart (h name hname)
  constructor
  · rw [parts_ofParts hrelative, List.flatMap_def,
      List.map_congr_left fun name hname => parts_of_isPart (h name hname), ← List.flatMap_def]
    exact List.flatMap_singleton' names
  · rw [isAbsolute_ofParts, List.any_eq_false]
    exact fun name hname => Bool.not_eq_true _ ▸ hrelative name hname

end Path

/-! ## Generated files -/

theorem Path.isPart_of_isIdentifier {part : String} (h : Text.isIdentifier part) :
    IsPart part where
  ne_empty := Text.ne_empty_of_isIdentifier h
  ne_dot := by rintro rfl; revert h; decide
  ne_dots := by rintro rfl; revert h; decide
  slash := Text.not_mem_of_isIdentifier h (by decide)

namespace Kotlin

theorem packageSegments_of_isValid {package : String}
    (h : (⟨package⟩ : QualifiedName).isValid) :
    packageSegments package = Text.segments '.' package := by
  rw [packageSegments, List.filter_eq_self]
  intro part hpart
  have hne := Text.ne_empty_of_isIdentifier (QualifiedName.isIdentifier_of_mem h hpart)
  simpa using hne

theorem packageSegments_empty : packageSegments "" = [] := by decide

/-- Whether a text is the name of a package: none, or segments that are identifiers. -/
def IsPackage (package : String) : Prop :=
  package = "" ∨ (⟨package⟩ : QualifiedName).isValid

theorem isIdentifier_of_mem_packageSegments {package part : String} (h : IsPackage package)
    (hpart : part ∈ packageSegments package) : Text.isIdentifier part := by
  rcases h with rfl | h
  · rw [packageSegments_empty] at hpart
    cases hpart
  · rw [packageSegments_of_isValid h] at hpart
    exact QualifiedName.isIdentifier_of_mem h hpart

theorem packageSegments_inj {a b : String} (ha : IsPackage a) (hb : IsPackage b) :
    packageSegments a = packageSegments b ↔ a = b := by
  have hname : ∀ {package : String}, IsPackage package →
      ".".intercalate (packageSegments package) = package := by
    rintro package (rfl | h)
    · decide
    · rw [packageSegments_of_isValid h]
      exact QualifiedName.intercalate_segments ⟨package⟩
  constructor
  · intro h
    rw [← hname ha, ← hname hb, h]
  · rintro rfl
    rfl

end Kotlin

namespace GeneratedFile

/-- A file whose package and name are made of identifiers. -/
structure IsNamed (file : GeneratedFile) : Prop where
  package : Kotlin.IsPackage file.package
  fileName : Text.isIdentifier file.fileName

variable {file other : GeneratedFile} {extension : String}

theorem isPart_of_isNamed (h : file.IsNamed) (hextension : isExtension extension) :
    Path.IsPart (file.fileName ++ "." ++ extension) := by
  have hname := Text.not_mem_of_isIdentifier h.fileName (c := '.') (by decide)
  have hne := Text.ne_empty_of_isIdentifier h.fileName
  obtain ⟨c, cs, hcs⟩ := List.exists_cons_of_ne_nil (by simpa using hne : file.fileName.toList ≠ [])
  have hc : c ≠ '.' := by
    rintro rfl
    exact hname (hcs ▸ List.mem_cons_self)
  -- The first character of the name is no dot, so the name is none of the names made of dots.
  have hhead : ∀ text : String, text.toList.head? ≠ some c →
      file.fileName ++ "." ++ extension ≠ text := by
    rintro text htext rfl
    exact htext (by simp [hcs])
  refine ⟨hhead _ (by simp), hhead _ ?_, hhead _ ?_, ?_⟩
  · simpa using Ne.symm hc
  · simpa using Ne.symm hc
  · rw [isExtension, Bool.and_eq_true, List.all_eq_true] at hextension
    simp only [String.toList_append, List.mem_append, not_or]
    refine ⟨⟨Text.not_mem_of_isIdentifier h.fileName (by decide), by decide⟩, fun hslash => ?_⟩
    exact absurd (hextension.2 '/' hslash) (by decide)

/-- The path of a file has a part for each segment of its package, and one for its name. -/
theorem parts_relativePath (h : file.IsNamed) (hextension : isExtension extension) :
    Path.parts (file.relativePath extension) =
        Kotlin.packageSegments file.package ++ [file.fileName ++ "." ++ extension] ∧
      Path.isAbsolute (file.relativePath extension) = false := by
  have hpart := isPart_of_isNamed h hextension
  have hrelative := Path.not_isAbsolute_of_isPart hpart
  obtain ⟨hparts, hfolder⟩ := Path.parts_ofParts_of_isPart fun part hmem =>
    Path.isPart_of_isIdentifier (Kotlin.isIdentifier_of_mem_packageSegments h.package hmem)
  rw [relativePath, Path.parts_push hrelative, Path.isAbsolute_push hrelative, hparts,
    Path.parts_of_isPart hpart]
  exact ⟨rfl, hfolder⟩

theorem parts_relativePath_inj (hfile : file.IsNamed) (hother : other.IsNamed)
    (hextension : isExtension extension)
    (h : Path.parts (file.relativePath extension) = Path.parts (other.relativePath extension)) :
    file.package = other.package ∧ file.fileName = other.fileName := by
  rw [(parts_relativePath hfile hextension).1, (parts_relativePath hother hextension).1] at h
  obtain ⟨hpackage, hname⟩ := List.append_inj' h rfl
  refine ⟨(Kotlin.packageSegments_inj hfile.package hother.package).1 hpackage, ?_⟩
  simpa [String.append_left_inj] using hname

/-- **Files have one path if and only if they have one package and one name.** -/
theorem relativePath_inj (hfile : file.IsNamed) (hother : other.IsNamed)
    (hextension : isExtension extension) :
    file.relativePath extension = other.relativePath extension ↔
      file.package = other.package ∧ file.fileName = other.fileName := by
  constructor
  · intro h
    exact parts_relativePath_inj hfile hother hextension (congrArg Path.parts h)
  · rintro ⟨hpackage, hname⟩
    rw [relativePath, relativePath, hpackage, hname]

end GeneratedFile

end Wiring
