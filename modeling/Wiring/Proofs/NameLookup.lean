import Mathlib.Data.List.Nodup
import Wiring.Kotlin.Render
import Wiring.Proofs.NameTable
import Wiring.Proofs.Names

/-!
# Looking names up

What the text of a class denotes in a file: a text with dots denotes the class of that name; a
single identifier denotes an imported class, else a class of the file's own package, else a class of
a package that every file sees.

* `unescape`, `SourceFile.denoted?`: the rules;
* `SourceFile.Misread`: the classes that are written so that their text denotes something else;
* **`SourceFile.text_denotes_iff_not_misread`**: the text of a class denotes it unless it is one of
  those.
-/

namespace Wiring.Kotlin

/-! ## The rules -/

/-- An identifier without its back-ticks. -/
def unescape (text : String) : String := String.ofList (text.toList.filter (· ≠ '`'))

/-- The class of a short name in a package. -/
def classIn (package short : String) : QualifiedName :=
  ⟨if package.isEmpty then short else package ++ "." ++ short⟩

namespace SourceFile

variable (file : SourceFile)

/-- Whether a file knows the class of a short name in its own package: it refers to the class or
declares it. -/
def KnowsOwn (short : String) : Prop :=
  classIn file.package short ∈ file.classNames ∨ short ∈ file.interfaces.map (·.name)

instance (short : String) : Decidable (file.KnowsOwn short) := inferInstanceAs (Decidable (_ ∨ _))

/-- The classes of a short name in the packages that every file sees, as far as the file refers to
them. -/
def visible (short : String) : List QualifiedName :=
  (defaultPackages.map (classIn · short)).filter (file.classNames.contains ·)

/-- What a single identifier denotes. Several visible classes hide each other. -/
def denotedShort? (short : String) : Option QualifiedName :=
  match file.nameTable.imports.find? (·.shortName = short) with
  | some imported => some imported
  | none =>
    if file.KnowsOwn short then some (classIn file.package short)
    else
      match file.visible short with
      | [only] => some only
      | _ => none

/-- What the text of a class denotes. -/
def denoted? (text : String) : Option QualifiedName :=
  match (Text.segments '.' text).map unescape with
  | [short] => file.denotedShort? short
  | parts => some ⟨".".intercalate parts⟩

/-- The classes that are written so that their text does not denote them: a class without a package
in a file that has one, or that imports a class of the same short name; and a class of a package
that every file sees, written short without an import, where the file knows a class of that short
name in its own package or refers to one in another such package. -/
inductive Misread (n : QualifiedName) : Prop where
  | rootInPackage (hroot : n.parent? = none) (hpackage : file.package ≠ "")
  | rootImported (hroot : n.parent? = none) (m : QualifiedName)
    (himport : m ∈ file.nameTable.imports) (hshort : m.shortName = n.shortName)
  | hiddenByOwn (parent : QualifiedName) (hparent : n.parent? = some parent)
    (hfirst : IsFirst file.classNames n) (hvisible : parent.text ∈ defaultPackages)
    (hpackage : parent.text ≠ file.package) (hown : file.KnowsOwn n.shortName)
  | hiddenByVisible (parent : QualifiedName) (hparent : n.parent? = some parent)
    (hfirst : IsFirst file.classNames n) (hvisible : parent.text ∈ defaultPackages)
    (hpackage : parent.text ≠ file.package) (other : String) (hother : other ∈ defaultPackages)
    (hne : other ≠ parent.text) (href : classIn other n.shortName ∈ file.classNames)

end SourceFile

/-! ## Escaped identifiers -/

theorem toList_escape {name : String} {c : Char} (h : c ∈ (escape name).toList) :
    c = '`' ∨ c ∈ name.toList := by
  rw [escape] at h
  split at h
  · simpa [or_comm, or_assoc] using h
  · exact .inr h

theorem unescape_of_not_mem {name : String} (h : '`' ∉ name.toList) : unescape name = name := by
  rw [unescape, List.filter_eq_self.2, String.ofList_toList]
  intro c hc
  exact decide_eq_true fun heq => h (heq ▸ hc)

theorem unescape_escape {name : String} (h : '`' ∉ name.toList) :
    unescape (escape name) = name := by
  rw [escape]
  split
  · have := unescape_of_not_mem h
    rw [unescape] at this ⊢
    simpa using this
  · exact unescape_of_not_mem h

theorem unescape_escape_of_isIdentifier {name : String} (h : Text.isIdentifier name) :
    unescape (escape name) = name :=
  unescape_escape (Text.not_mem_of_isIdentifier h (by decide))

theorem dot_not_mem_escape {name : String} (h : Text.isIdentifier name) :
    '.' ∉ (escape name).toList := by
  intro hmem
  rcases toList_escape hmem with hc | hc
  · cases hc
  · exact Text.not_mem_of_isIdentifier h (by decide) hc

/-- The identifiers of a whole name, as it is written. -/
theorem map_unescape_qualifiedText {n : QualifiedName} (h : n.isValid) :
    (Text.segments '.' (qualifiedText n)).map unescape = n.segments := by
  have hne : n.segments.map escape ≠ [] := by simpa using n.segments_ne_nil
  have hdot : ∀ part ∈ n.segments.map escape, '.' ∉ part.toList := by
    intro part hpart
    obtain ⟨name, hname, rfl⟩ := List.mem_map.1 hpart
    exact dot_not_mem_escape (QualifiedName.isIdentifier_of_mem h hname)
  have hsegments : Text.segments '.' (qualifiedText n) = n.segments.map escape :=
    Text.segments_intercalate hne hdot
  rw [hsegments, List.map_map]
  refine (List.map_congr_left fun name hname => ?_).trans (List.map_id _)
  exact unescape_escape_of_isIdentifier (QualifiedName.isIdentifier_of_mem h hname)

/-! ## Classes in packages -/

theorem classIn_of_ne {package : String} (h : package ≠ "") (short : String) :
    classIn package short = ⟨package ++ "." ++ short⟩ := by
  rw [classIn, if_neg (by simpa using h)]

theorem classIn_empty (short : String) : classIn "" short = ⟨short⟩ := rfl

theorem classIn_ne_mk {package : String} (h : package ≠ "") (short : String) :
    classIn package short ≠ ⟨short⟩ := by
  rw [classIn_of_ne h, ne_eq, QualifiedName.mk.injEq]
  intro heq
  have hlength := congrArg (·.toList.length) heq
  simp at hlength
  omega

/-- Classes of one short name in different packages are different. -/
theorem classIn_inj {a b short : String} (h : classIn a short = classIn b short) : a = b := by
  by_cases ha : a = ""
  · by_cases hb : b = ""
    · rw [ha, hb]
    · rw [ha, classIn_empty] at h
      exact absurd h.symm (classIn_ne_mk hb short)
  · by_cases hb : b = ""
    · rw [hb, classIn_empty] at h
      exact absurd h (classIn_ne_mk ha short)
    · rw [classIn_of_ne ha, classIn_of_ne hb, QualifiedName.mk.injEq] at h
      simpa [← String.toList_inj] using h

theorem classIn_parent {n parent : QualifiedName} (h : n.parent? = some parent)
    (hne : parent.text ≠ "") : classIn parent.text n.shortName = n := by
  rw [classIn_of_ne hne, ← (QualifiedName.text_of_parent?_eq_some h).1]

/-- A name with a dot is no single identifier. -/
theorem classIn_ne_of_isIdentifier {package short : String} (h : package ≠ "") {n : QualifiedName}
    (hn : Text.isIdentifier n.text) : classIn package short ≠ n := by
  rintro rfl
  refine Text.not_mem_of_isIdentifier hn (c := '.') (by decide) ?_
  simp [classIn_of_ne h]

namespace SourceFile

variable {file : SourceFile} {n : QualifiedName}

/-! ## Single identifiers -/

theorem denotedShort?_of_import {m : QualifiedName} (h : m ∈ file.nameTable.imports) :
    file.denotedShort? m.shortName = some m := by
  have hfind : file.nameTable.imports.find? (·.shortName = m.shortName) = some m := by
    cases hf : file.nameTable.imports.find? (·.shortName = m.shortName) with
    | none => exact absurd (decide_eq_true rfl) (List.find?_eq_none.1 hf m h)
    | some found =>
      have hshort : found.shortName = m.shortName := by simpa using List.find?_some hf
      have hfound := NameTable.mem_imports_ofNames.1 (List.mem_of_find?_eq_some hf)
      rw [hfound.1.eq_of_shortName (NameTable.mem_imports_ofNames.1 h).1 hshort]
  rw [denotedShort?, hfind]

/-- Without an import, an identifier denotes the own class if the file knows one. -/
theorem denotedShort?_of_knowsOwn {short : String}
    (himports : ∀ m ∈ file.nameTable.imports, m.shortName ≠ short) (h : file.KnowsOwn short) :
    file.denotedShort? short = some (classIn file.package short) := by
  have hfind : file.nameTable.imports.find? (·.shortName = short) = none := by
    simpa [List.find?_eq_none] using himports
  rw [denotedShort?, hfind]
  exact if_pos h

/-- Without an import and an own class, an identifier denotes the only visible class. -/
theorem denotedShort?_of_visible {short : String}
    (himports : ∀ m ∈ file.nameTable.imports, m.shortName ≠ short) (hown : ¬file.KnowsOwn short) :
    file.denotedShort? short = some n ↔ file.visible short = [n] := by
  have hfind : file.nameTable.imports.find? (·.shortName = short) = none := by
    simpa [List.find?_eq_none] using himports
  rw [denotedShort?, hfind]
  simp only [if_neg hown]
  split
  · next only h => simp [h]
  · next h => simpa using h n

theorem mem_visible {short : String} :
    n ∈ file.visible short ↔
      n ∈ file.classNames ∧ ∃ package ∈ defaultPackages, classIn package short = n := by
  simp [visible, and_comm]

theorem defaultPackage_ne_empty {package : String} (h : package ∈ defaultPackages) :
    package ≠ "" := by
  rintro rfl
  exact absurd h (by decide)

theorem nodup_visible (short : String) : (file.visible short).Nodup := by
  exact List.Nodup.filter _ (List.Nodup.map_on (fun _ _ _ _ h => classIn_inj h) (by decide))

/-- A visible class is the only one unless the file refers to another of its short name. -/
theorem visible_eq_singleton {package short : String} (hpackage : package ∈ defaultPackages)
    (href : classIn package short ∈ file.classNames) :
    file.visible short = [classIn package short] ↔
      ∀ other ∈ defaultPackages, other ≠ package → classIn other short ∉ file.classNames := by
  have hmem : classIn package short ∈ file.visible short :=
    mem_visible.2 ⟨href, package, hpackage, rfl⟩
  constructor
  · intro h other hother hne hmem'
    have hother' : classIn other short ∈ file.visible short :=
      mem_visible.2 ⟨hmem', other, hother, rfl⟩
    rw [h, List.mem_singleton] at hother'
    exact hne (classIn_inj hother')
  · intro h
    refine List.perm_singleton.1 ((List.perm_ext_iff_of_nodup (nodup_visible short)
      (List.nodup_singleton _)).2 fun m => ?_)
    rw [List.mem_singleton]
    constructor
    · intro hm
      obtain ⟨hm, other, hother, rfl⟩ := mem_visible.1 hm
      by_cases heq : other = package
      · rw [heq]
      · exact absurd hm (h other hother heq)
    · rintro rfl
      exact hmem

/-! ## The text of a class -/

theorem denoted?_qualifiedText {parent : QualifiedName} (hvalid : n.isValid)
    (h : n.parent? = some parent) : file.denoted? (qualifiedText n) = some n := by
  have hsegments := (QualifiedName.text_of_parent?_eq_some h).2
  rw [denoted?, map_unescape_qualifiedText hvalid]
  split
  · next short hone =>
    rw [hsegments] at hone
    have hlength := congrArg List.length hone
    have hpos := List.length_pos_of_ne_nil parent.segments_ne_nil
    rw [List.length_append, List.length_singleton, List.length_singleton] at hlength
    omega
  · rw [n.intercalate_segments]

theorem denoted?_escape {short : String} (h : Text.isIdentifier short) :
    file.denoted? (escape short) = file.denotedShort? short := by
  rw [denoted?, Text.segments_eq_singleton (dot_not_mem_escape h), List.map_singleton,
    unescape_escape_of_isIdentifier h]

/-- A class without a package is written as its short name in any case. -/
theorem text_of_root (hroot : n.parent? = none) :
    file.nameTable.text n = escape n.shortName := by
  obtain ⟨hsegments, hshort⟩ := QualifiedName.segments_of_parent?_eq_none hroot
  by_cases hfirst : IsFirst file.classNames n
  · exact NameTable.text_of_isFirst hfirst
  · rw [nameTable, NameTable.text_of_not_isFirst hfirst, qualifiedText, hsegments, hshort,
      List.map_singleton, String.intercalate_singleton]

/-- A class without a package is denoted by its text if the file has no package either and imports
no class of its name. -/
theorem denoted?_text_of_root (hn : n ∈ file.classNames) (hvalid : n.isValid)
    (hroot : n.parent? = none) :
    file.denoted? (file.nameTable.text n) = some n ↔
      file.package = "" ∧ ∀ m ∈ file.nameTable.imports, m.shortName ≠ n.shortName := by
  have hidentifier := QualifiedName.isIdentifier_shortName hvalid
  have hshort := (QualifiedName.segments_of_parent?_eq_none hroot).2
  rw [text_of_root hroot, denoted?_escape hidentifier]
  by_cases himport : ∃ m ∈ file.nameTable.imports, m.shortName = n.shortName
  · obtain ⟨m, hm, hmn⟩ := himport
    have hne : m ≠ n := by
      rintro rfl
      have hneeds := (NameTable.mem_imports_ofNames.1 hm).2
      rw [needsImport, hroot] at hneeds
      cases hneeds
    rw [← hmn, denotedShort?_of_import hm]
    constructor
    · exact fun h => absurd (Option.some.inj h) hne
    · exact fun h => absurd rfl (h.2 m hm)
  · have himports : ∀ m ∈ file.nameTable.imports, m.shortName ≠ n.shortName :=
      fun m hm h => himport ⟨m, hm, h⟩
    rw [hshort] at hidentifier
    by_cases hpackage : file.package = ""
    · have hown : classIn file.package n.shortName = n := by simp [classIn, hpackage, hshort]
      have hknows : file.KnowsOwn n.shortName := .inl (by rwa [hown])
      rw [denotedShort?_of_knowsOwn himports hknows, hown]
      exact ⟨fun _ => ⟨hpackage, himports⟩, fun _ => rfl⟩
    · refine ⟨fun h => ?_, fun h => absurd h.1 hpackage⟩
      by_cases hknows : file.KnowsOwn n.shortName
      · rw [denotedShort?_of_knowsOwn himports hknows] at h
        exact absurd (Option.some.inj h) (classIn_ne_of_isIdentifier hpackage hidentifier)
      · have hvisible : n ∈ file.visible n.shortName := by
          rw [(denotedShort?_of_visible himports hknows).1 h]
          exact List.mem_singleton_self n
        obtain ⟨-, package, hdefault, heq⟩ := mem_visible.1 hvisible
        exact absurd heq
          (classIn_ne_of_isIdentifier (defaultPackage_ne_empty hdefault) hidentifier)

theorem parent_ne_empty {parent : QualifiedName} (hvalid : n.isValid)
    (h : n.parent? = some parent) : parent.text ≠ "" := by
  intro hempty
  have hsegments : parent.segments = [""] := by rw [QualifiedName.segments, hempty]; rfl
  have hmem : "" ∈ n.segments := by
    rw [(QualifiedName.text_of_parent?_eq_some h).2, hsegments]
    exact List.mem_cons_self
  exact Text.ne_empty_of_isIdentifier (QualifiedName.isIdentifier_of_mem hvalid hmem) rfl

/-- No import has the short name of a class that is written short and is not imported itself. -/
theorem import_ne_of_isFirst (hfirst : IsFirst file.classNames n)
    (hneeds : needsImport file.package n = false) :
    ∀ m ∈ file.nameTable.imports, m.shortName ≠ n.shortName := by
  intro m hm hshort
  obtain ⟨hmfirst, hmneeds⟩ := NameTable.mem_imports_ofNames.1 hm
  rw [hmfirst.eq_of_shortName hfirst hshort, hneeds] at hmneeds
  cases hmneeds

/-- A class of the own package is denoted by its short name. -/
theorem denotedShort?_of_own {parent : QualifiedName} (hfirst : IsFirst file.classNames n)
    (hvalid : n.isValid) (h : n.parent? = some parent) (hpackage : parent.text = file.package) :
    file.denotedShort? n.shortName = some n := by
  have hneeds : needsImport file.package n = false := by simp [needsImport, h, hpackage]
  have hown : classIn file.package n.shortName = n :=
    hpackage ▸ classIn_parent h (parent_ne_empty hvalid h)
  have hknows : file.KnowsOwn n.shortName := .inl (by rw [hown]; exact hfirst.mem)
  rw [denotedShort?_of_knowsOwn (import_ne_of_isFirst hfirst hneeds) hknows, hown]

/-- A class of a package that every file sees, written short, is denoted by its text unless the file
knows an own class or another visible one of its short name. -/
theorem denotedShort?_of_default {parent : QualifiedName} (hfirst : IsFirst file.classNames n)
    (h : n.parent? = some parent) (hdefault : parent.text ∈ defaultPackages)
    (hpackage : parent.text ≠ file.package) :
    file.denotedShort? n.shortName = some n ↔
      ¬file.KnowsOwn n.shortName ∧ ∀ other ∈ defaultPackages, other ≠ parent.text →
        classIn other n.shortName ∉ file.classNames := by
  have hneeds : needsImport file.package n = false := by simp [needsImport, h, hdefault]
  have himports := import_ne_of_isFirst hfirst hneeds
  have hn := classIn_parent h (defaultPackage_ne_empty hdefault)
  by_cases hknows : file.KnowsOwn n.shortName
  · rw [denotedShort?_of_knowsOwn himports hknows]
    refine ⟨fun heq => ?_, fun h => absurd hknows h.1⟩
    have heq' := (Option.some.inj heq).trans hn.symm
    exact absurd (classIn_inj heq').symm hpackage
  · rw [denotedShort?_of_visible himports hknows]
    have hsingle := visible_eq_singleton hdefault (hn.symm ▸ hfirst.mem)
    rw [hn] at hsingle
    rw [hsingle]
    exact (and_iff_right hknows).symm

theorem misread_iff_of_root (hroot : n.parent? = none) :
    file.Misread n ↔
      ¬(file.package = "" ∧ ∀ m ∈ file.nameTable.imports, m.shortName ≠ n.shortName) := by
  constructor
  · rintro (⟨-, hp⟩ | ⟨-, m, hm, hshort⟩ | ⟨parent, hparent⟩ | ⟨parent, hparent⟩) ⟨hempty, himports⟩
    · exact hp hempty
    · exact himports m hm hshort
    · exact absurd (hroot.symm.trans hparent) nofun
    · exact absurd (hroot.symm.trans hparent) nofun
  · intro h
    by_cases hempty : file.package = ""
    · have himport : ∃ m ∈ file.nameTable.imports, m.shortName = n.shortName := by
        by_contra hno
        exact h ⟨hempty, fun m hm hshort => hno ⟨m, hm, hshort⟩⟩
      obtain ⟨m, hm, hshort⟩ := himport
      exact .rootImported hroot m hm hshort
    · exact .rootInPackage hroot hempty

theorem misread_iff_of_parent {parent : QualifiedName} (h : n.parent? = some parent) :
    file.Misread n ↔
      (IsFirst file.classNames n ∧ parent.text ∈ defaultPackages ∧ parent.text ≠ file.package) ∧
      ¬(¬file.KnowsOwn n.shortName ∧ ∀ other ∈ defaultPackages, other ≠ parent.text →
        classIn other n.shortName ∉ file.classNames) := by
  constructor
  · rintro (⟨hroot, -⟩ | ⟨hroot, -⟩ | ⟨p, hp, hfirst, hdefault, hne, hown⟩ |
      ⟨p, hp, hfirst, hdefault, hne, other, hother, hdiff, href⟩)
    · exact absurd (hroot.symm.trans h) nofun
    · exact absurd (hroot.symm.trans h) nofun
    · cases h.symm.trans hp
      exact ⟨⟨hfirst, hdefault, hne⟩, fun hno => hno.1 hown⟩
    · cases h.symm.trans hp
      exact ⟨⟨hfirst, hdefault, hne⟩, fun hno => hno.2 other hother hdiff href⟩
  · rintro ⟨⟨hfirst, hdefault, hne⟩, hno⟩
    by_cases hown : file.KnowsOwn n.shortName
    · exact .hiddenByOwn parent h hfirst hdefault hne hown
    · have hother : ∃ other ∈ defaultPackages, other ≠ parent.text ∧
          classIn other n.shortName ∈ file.classNames := by
        by_contra hnone
        exact hno ⟨hown, fun other ho hdiff href => hnone ⟨other, ho, hdiff, href⟩⟩
      obtain ⟨other, ho, hdiff, href⟩ := hother
      exact .hiddenByVisible parent h hfirst hdefault hne other ho hdiff href

/-- The text of a class with a parent. -/
theorem denoted?_text_of_parent {parent : QualifiedName} (hvalid : n.isValid)
    (h : n.parent? = some parent) :
    file.denoted? (file.nameTable.text n) = some n ↔ ¬file.Misread n := by
  rw [misread_iff_of_parent h]
  by_cases hfirst : IsFirst file.classNames n
  · rw [nameTable, NameTable.text_of_isFirst hfirst,
      denoted?_escape (QualifiedName.isIdentifier_shortName hvalid)]
    by_cases hpackage : parent.text = file.package
    · rw [denotedShort?_of_own hfirst hvalid h hpackage]
      simp [hpackage]
    · by_cases hdefault : parent.text ∈ defaultPackages
      · rw [denotedShort?_of_default hfirst h hdefault hpackage]
        exact ⟨fun hno hmisread => hmisread.2 hno,
          fun hmisread => by_contra fun hno => hmisread ⟨⟨hfirst, hdefault, hpackage⟩, hno⟩⟩
      · have himport : n ∈ file.nameTable.imports :=
          NameTable.mem_imports_ofNames.2 ⟨hfirst, by simp [needsImport, h, hpackage, hdefault]⟩
        rw [denotedShort?_of_import himport]
        simp [hdefault]
  · rw [nameTable, NameTable.text_of_not_isFirst hfirst, denoted?_qualifiedText hvalid h]
    simp [hfirst]

/-- **The text of a class denotes that class, unless it is written so that it is misread.** -/
theorem text_denotes_iff_not_misread (file : SourceFile)
    (hnames : ∀ n ∈ file.classNames, n.isValid) (n : QualifiedName) (hn : n ∈ file.classNames) :
    file.denoted? (file.nameTable.text n) = some n ↔ ¬file.Misread n := by
  cases h : n.parent? with
  | none => rw [denoted?_text_of_root hn (hnames n hn) h, misread_iff_of_root h, not_not]
  | some parent => exact denoted?_text_of_parent (hnames n hn) h

end SourceFile

/-! ## Files with names that clash -/

/-- A file with one property for each of some classes. -/
def typesFile (package : String) (types : List QualifiedName) : SourceFile where
  package := package
  name := "Types"
  interfaces := [{
    name := "Types"
    annotations := []
    properties := types.map fun type => ⟨"value", .ofClass type, none, []⟩
    functions := [] }]

/-- Two classes of one short name: the first is imported, the second is written in full, and neither
is misread. -/
theorem two_clients_denoted :
    let file := typesFile "app" [⟨"one.Client"⟩, ⟨"two.Client"⟩]
    (∀ n ∈ file.classNames, n.isValid) ∧ ⟨"two.Client"⟩ ∈ file.classNames ∧
      file.denoted? (file.nameTable.text ⟨"two.Client"⟩) = some ⟨"two.Client"⟩ ∧
      ¬file.Misread ⟨"two.Client"⟩ := by
  intro file
  have hnames : ∀ n ∈ file.classNames, n.isValid := by decide
  have hn : ⟨"two.Client"⟩ ∈ file.classNames := by decide
  have hdenoted : file.denoted? (file.nameTable.text ⟨"two.Client"⟩) = some ⟨"two.Client"⟩ := by
    decide
  exact ⟨hnames, hn, hdenoted, (file.text_denotes_iff_not_misread hnames _ hn).1 hdenoted⟩

/-- A file of a package that has a class named as one that every file sees. -/
def stringsFile : SourceFile := typesFile "zapp" [⟨"kotlin.String"⟩, ⟨"zapp.String"⟩]

/-- A file of a package that refers to a class without one. -/
def loginFile : SourceFile := typesFile "app" [⟨"Login"⟩]

/-- **A class may be misread**: `kotlin.String` is written short and without an import where the own
package has a class of that name, which is what its text denotes; and a class without a package is
written as it is where nothing makes it known. -/
theorem string_misread_as_own_class :
    ((QualifiedName.mk stringsFile.package).isValid ∧ (∀ n ∈ stringsFile.classNames, n.isValid) ∧
      ⟨"kotlin.String"⟩ ∈ stringsFile.classNames ∧
      stringsFile.denoted? (stringsFile.nameTable.text ⟨"kotlin.String"⟩) =
        some ⟨"zapp.String"⟩) ∧
    (QualifiedName.mk loginFile.package).isValid ∧ (∀ n ∈ loginFile.classNames, n.isValid) ∧
      ⟨"Login"⟩ ∈ loginFile.classNames ∧
      loginFile.denoted? (loginFile.nameTable.text ⟨"Login"⟩) = none := by
  decide

end Wiring.Kotlin
