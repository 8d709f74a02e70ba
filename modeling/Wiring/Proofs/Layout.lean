import Mathlib.Data.List.Forall2
import Wiring.GeneratedFile
import Wiring.Proofs.OneLine
import Wiring.Proofs.UnambiguousFiles

/-!
# The layout of files

The text of a file is a list of lines, each of which is for one thing: the package, an import, an
annotation, the head of an interface, a member, a closing brace, or nothing. How a line begins tells
what it is for, so that the interfaces, the members and the annotations can be counted in the text.

* `Line`, `Interface.layout`, `SourceFile.layout`: the lines of a file;
  `SourceFile.render_eq_joinLines`;
* `LineKind`: how lines begin; `Line.startsWith_text`, `SourceFile.filter_kind`;
* `SourceFile.isBlock_layout`, `SourceFile.HasOneLineNames`;
* `SourceFile.IsLaidOut`, **`SourceFile.isLaidOut`**.
-/

namespace Wiring.Kotlin

open Text

/-! ## Lines -/

/-- What a line of a file is for. -/
inductive Line where
  | empty
  | header (package : String)
  | imported (name : QualifiedName)
  | ownUse (use : AnnotationUse)
  | opening (interface : Interface)
  | memberUse (use : AnnotationUse)
  | declaration (member : Property ⊕ Function)
  | closing

/-- What lines that are not empty may be for. -/
inductive LineKind where
  | package
  | imported
  | ownUse
  | interface
  | memberUse
  | property
  | function
  | closing
  deriving DecidableEq

/-- How the lines of a kind begin. -/
def LineKind.start : LineKind → String
  | package => "package "
  | imported => "import "
  | ownUse => "@"
  | interface => "public interface "
  | memberUse => "  @"
  | property => "  public val "
  | function => "  public fun "
  | closing => "\x7d"

/-- The kind of a line. Empty lines have none. -/
def Line.kind? : Line → Option LineKind
  | empty => none
  | header _ => some .package
  | imported _ => some .imported
  | ownUse _ => some .ownUse
  | opening _ => some .interface
  | memberUse _ => some .memberUse
  | declaration (.inl _) => some .property
  | declaration (.inr _) => some .function
  | closing => some .closing

/-- The annotation that a line is for. -/
def Line.uses : Line → List AnnotationUse
  | ownUse use => [use]
  | memberUse use => [use]
  | _ => []

section

variable (names : NameTable)

/-- The declaration of a property, without its annotations. -/
def Property.declaration (property : Property) : String :=
  "public val " ++ renderReceiver names property.receiver ++ escape property.name ++ ": " ++
    property.type.render names

/-- The declaration of a function, without its annotations. -/
def Function.declaration (function : Function) : String :=
  "public fun " ++ renderReceiver names function.receiver ++ escape function.name ++ "()" ++
    (match function.returns with
    | some type => ": " ++ type.render names
    | none => "")

/-- The declaration of a member. -/
def memberDeclaration : Property ⊕ Function → String
  | .inl property => property.declaration names
  | .inr function => function.declaration names

/-- What stands after the name of an interface in its line. -/
def Interface.opening (interface : Interface) : String :=
  if interface.members.isEmpty then "" else " \x7b"

/-- The text of a line. -/
def Line.text : Line → String
  | empty => ""
  | header package => "package " ++ packageText package
  | imported name => "import " ++ qualifiedText name
  | ownUse use => use.render names
  | opening interface => "public interface " ++ (escape interface.name ++ interface.opening)
  | memberUse use => "  " ++ use.render names
  | declaration member => "  " ++ memberDeclaration names member
  | closing => "\x7d"

end

/-- The lines of a member. -/
def memberLayout (member : Property ⊕ Function) : List Line :=
  (memberUses member).map .memberUse ++ [.declaration member]

/-- The lines of the body of an interface, with the closing brace. -/
def Interface.bodyLayout (interface : Interface) : List Line :=
  if interface.members.isEmpty then []
  else [.empty].intercalate (interface.members.map memberLayout) ++ [.closing]

/-- The lines of an interface. -/
def Interface.layout (interface : Interface) : List Line :=
  interface.annotations.map .ownUse ++ [.opening interface] ++ interface.bodyLayout

/-- The line of the package, with an empty line after it. -/
def packageLayout (package : String) : List Line :=
  if package.isEmpty then [] else [.header package, .empty]

/-- The lines of imports, with an empty line after them. -/
def importsLayout (imports : List QualifiedName) : List Line :=
  if imports.isEmpty then [] else imports.map .imported ++ [.empty]

namespace SourceFile

/-- The lines of a file. -/
def layout (file : SourceFile) : List Line :=
  packageLayout file.package ++ importsLayout file.nameTable.imports ++
    [.empty].intercalate (file.interfaces.map Interface.layout)

end SourceFile

/-! ## The text of lines -/

section

variable (names : NameTable)

/-- The texts of lines. -/
def textsOf (layout : List Line) : List String := layout.map (Line.text names)

theorem textsOf_append (as bs : List Line) :
    textsOf names (as ++ bs) = textsOf names as ++ textsOf names bs := List.map_append

theorem textsOf_intercalate (blocks : List (List Line)) :
    textsOf names ([.empty].intercalate blocks) =
      [""].intercalate (blocks.map (textsOf names)) :=
  (Piecewise.map (Line.text names)).intercalate [.empty] blocks

theorem isOneLine_textsOf_intercalate {blocks : List (List Line)}
    (h : ∀ block ∈ blocks, ∀ text ∈ textsOf names block, IsOneLine text) :
    ∀ text ∈ textsOf names ([.empty].intercalate blocks), IsOneLine text := by
  rw [textsOf_intercalate]
  exact forall_mem_intercalate (List.forall_mem_singleton.2 List.not_mem_nil)
    (List.forall_mem_map.2 h)

theorem joinLines_textsOf_intercalate (blocks : List (List Line)) :
    joinLines (textsOf names ([.empty].intercalate blocks)) =
      "\n".intercalate (blocks.map fun block => joinLines (textsOf names block)) := by
  rw [textsOf_intercalate, joinLines_intercalate, List.map_map]
  rfl

theorem linesOf_eq (member : Property ⊕ Function) :
    linesOf names member =
      (memberUses member).map (AnnotationUse.render names) ++ [memberDeclaration names member] := by
  cases member <;> rfl

theorem textsOf_memberLayout (member : Property ⊕ Function) :
    textsOf names (memberLayout member) = (linesOf names member).map ("  " ++ ·) := by
  rw [linesOf_eq, memberLayout, textsOf_append, List.map_append, textsOf, List.map_map,
    List.map_map]
  rfl

theorem joinLines_memberLayout (member : Property ⊕ Function) :
    joinLines (textsOf names (memberLayout member)) = renderMember (linesOf names member) := by
  rw [textsOf_memberLayout, joinLines, List.map_map]
  rfl

theorem joinLines_bodyLayout {interface : Interface} (h : interface.members.isEmpty = false) :
    joinLines (textsOf names interface.bodyLayout) =
      "\n".intercalate ((interface.memberLines names).map renderMember) ++ "\x7d\n" := by
  have hmembers : (interface.members.map memberLayout).map
      (fun block => joinLines (textsOf names block)) =
        (interface.memberLines names).map renderMember := by
    rw [memberLines_eq, List.map_map, List.map_map]
    exact List.map_congr_left fun member _ => joinLines_memberLayout names member
  rw [Interface.bodyLayout, if_neg (by simp [h]), textsOf_append, joinLines_append,
    joinLines_textsOf_intercalate, hmembers]
  rfl

theorem joinLines_interfaceLayout (interface : Interface) :
    joinLines (textsOf names interface.layout) = interface.render names := by
  have huses : joinLines (textsOf names (interface.annotations.map .ownUse)) =
      String.join (interface.annotations.map fun use => endLine (use.render names)) := by
    rw [joinLines, textsOf, List.map_map, List.map_map]
    rfl
  have hopening : joinLines (textsOf names [.opening interface]) =
      "public interface " ++ escape interface.name ++
        (if interface.members.isEmpty then "" else " \x7b") ++ "\n" := by
    rw [textsOf, List.map_singleton, joinLines_cons, joinLines_nil, String.append_empty]
    rfl
  rw [Interface.layout, textsOf_append, textsOf_append, joinLines_append, joinLines_append, huses,
    hopening, Interface.render, memberLines_eq, List.isEmpty_map]
  cases hempty : interface.members.isEmpty with
  | true =>
    have hbody : interface.bodyLayout = [] := if_pos hempty
    rw [hbody]
    simp only [String.append_assoc]
    rfl
  | false =>
    rw [joinLines_bodyLayout names hempty, memberLines_eq]
    simp only [String.append_assoc]
    rfl

end

/-- The text of a file is that of its lines. -/
theorem SourceFile.render_eq_joinLines (file : SourceFile) :
    file.render = joinLines (textsOf file.nameTable file.layout) := by
  have hheader : joinLines (textsOf file.nameTable (packageLayout file.package)) =
      file.packageHeader := by
    rw [packageLayout, packageHeader]
    split
    · rfl
    · rw [textsOf, List.map_cons, List.map_singleton, joinLines_cons, joinLines_cons]
      simp only [String.append_assoc]
      rfl
  have himports : joinLines (textsOf file.nameTable (importsLayout file.nameTable.imports)) =
      renderImports file.nameTable.imports := by
    rw [importsLayout, renderImports]
    split
    · rfl
    · rw [textsOf_append, joinLines_append, joinLines, textsOf, List.map_map, List.map_map]
      rfl
  have hinterfaces : (file.interfaces.map Interface.layout).map
      (fun block => joinLines (textsOf file.nameTable block)) =
        file.interfaces.map (Interface.render file.nameTable) := by
    rw [List.map_map]
    exact List.map_congr_left fun interface _ => joinLines_interfaceLayout _ interface
  rw [render, layout, textsOf_append, textsOf_append, joinLines_append, joinLines_append, hheader,
    himports, joinLines_textsOf_intercalate, hinterfaces]

/-! ## Kinds of lines -/

namespace Line

variable {names : NameTable}

theorem kind?_eq_none_iff {line : Line} : line.kind? = none ↔ line = .empty := by
  cases line with
  | declaration member => cases member <;> simp [kind?]
  | _ => simp [kind?]

/-- No kind of line begins like another one. -/
theorem not_start_prefix {j k : LineKind} (h : j ≠ k) : ¬j.start.toList <+: k.start.toList := by
  cases j <;> cases k <;> first | exact absurd rfl h | decide

theorem text_property (property : Property) :
    (declaration (.inl property)).text names = "  public val " ++
      (renderReceiver names property.receiver ++
        (escape property.name ++ (": " ++ property.type.render names))) := by
  change "  " ++ ("public val " ++ _ ++ _ ++ _ ++ _) = _
  simp only [String.append_assoc]
  rw [← String.append_assoc]
  rfl

theorem text_function (function : Function) :
    (declaration (.inr function)).text names = "  public fun " ++
      (renderReceiver names function.receiver ++ (escape function.name ++ ("()" ++
        (returnsCode function.returns).render names))) := by
  have hreturns : (returnsCode function.returns).render names = match function.returns with
      | some type => ": " ++ type.render names
      | none => "" := by
    cases function.returns with
    | none => rfl
    | some type => simp [returnsCode, Code.render_append, type.render_code]
  rw [hreturns]
  change "  " ++ ("public fun " ++ _ ++ _ ++ _ ++ _) = _
  simp only [String.append_assoc]
  rw [← String.append_assoc]
  rfl

/-- The line with the name of an interface ends with it, or else with an opening brace. -/
theorem text_opening_cases (interface : Interface) :
    (opening interface).text names = "public interface " ++ escape interface.name ∨
      (opening interface).text names =
        "public interface " ++ escape interface.name ++ " \x7b" := by
  have htext : (opening interface).text names =
      "public interface " ++ escape interface.name ++ interface.opening := by
    rw [String.append_assoc]
    rfl
  rw [htext, Interface.opening]
  split
  · exact .inl String.append_empty
  · exact .inr rfl

theorem exists_text_eq (names : NameTable) {line : Line} {kind : LineKind}
    (h : line.kind? = some kind) : ∃ rest, line.text names = kind.start ++ rest := by
  have hsigned : ∀ use : AnnotationUse, ∃ rest, use.render names = "@" ++ rest := by
    intro use
    rw [AnnotationUse.render, String.append_assoc, String.append_assoc]
    exact ⟨_, rfl⟩
  cases line with
  | empty => cases h
  | header package =>
    obtain rfl : LineKind.package = kind := Option.some.inj h
    exact ⟨packageText package, rfl⟩
  | imported name =>
    obtain rfl : LineKind.imported = kind := Option.some.inj h
    exact ⟨qualifiedText name, rfl⟩
  | ownUse use =>
    obtain rfl : LineKind.ownUse = kind := Option.some.inj h
    exact hsigned use
  | opening interface =>
    obtain rfl : LineKind.interface = kind := Option.some.inj h
    exact ⟨escape interface.name ++ interface.opening, rfl⟩
  | memberUse use =>
    obtain rfl : LineKind.memberUse = kind := Option.some.inj h
    obtain ⟨rest, hrest⟩ := hsigned use
    have htext : (memberUse use).text names = "  " ++ ("@" ++ rest) :=
      congrArg ("  " ++ ·) hrest
    exact ⟨rest, htext.trans String.append_assoc.symm⟩
  | declaration member =>
    cases member with
    | inl property =>
      obtain rfl : LineKind.property = kind := Option.some.inj h
      exact ⟨_, text_property property⟩
    | inr function =>
      obtain rfl : LineKind.function = kind := Option.some.inj h
      exact ⟨_, text_function function⟩
  | closing =>
    obtain rfl : LineKind.closing = kind := Option.some.inj h
    exact ⟨"", rfl⟩

theorem startsWith_text (line : Line) (kind : LineKind) :
    startsWith kind.start (line.text names) = decide (line.kind? = some kind) := by
  cases hkind : line.kind? with
  | none =>
    obtain rfl := kind?_eq_none_iff.1 hkind
    cases kind <;> rfl
  | some other =>
    obtain ⟨rest, hrest⟩ := exists_text_eq names hkind
    rw [hrest, startsWith, Bool.eq_iff_iff, List.isPrefixOf_iff_prefix, decide_eq_true_iff,
      Option.some_inj, String.toList_append]
    constructor
    · intro hprefix
      by_contra hne
      rcases List.prefix_or_prefix_of_prefix hprefix (List.prefix_append _ _) with h | h
      · exact not_start_prefix (Ne.symm hne) h
      · exact not_start_prefix hne h
    · rintro rfl
      exact List.prefix_append _ _

end Line

variable {names : NameTable}

/-- Which lines of a text are of a kind is seen from how they begin. -/
theorem filter_textsOf (kind : LineKind) (layout : List Line) :
    (textsOf names layout).filter (startsWith kind.start) =
      textsOf names (layout.filter (·.kind? = some kind)) := by
  rw [textsOf, List.filter_map]
  exact congrArg _ (List.filter_congr fun line _ => line.startsWith_text kind)

section

variable {β : Type} {f : List Line → List β}

/-- What is done to the lines of an interface is done to its annotations, its head and its members,
if nothing is done to empty lines and to braces. -/
theorem Interface.piecewise_layout (hf : Piecewise f) (hempty : f [.empty] = [])
    (hclosing : f [.closing] = []) (interface : Interface) :
    f interface.layout = f (interface.annotations.map .ownUse) ++ f [.opening interface] ++
      interface.members.flatMap fun member => f (memberLayout member) := by
  rw [layout, hf.append, hf.append, bodyLayout]
  refine congrArg _ ?_
  split
  · next hmembers => rw [hf.nil, List.isEmpty_iff.1 hmembers, List.flatMap_nil]
  · rw [hf.append, hf.intercalate_of_nil hempty, hclosing, List.append_nil, List.flatMap_map]

/-- What is done to the lines of a file is done to its interfaces, if nothing is done to other
lines. -/
theorem SourceFile.piecewise_layout (hf : Piecewise f) (file : SourceFile)
    (hempty : f [.empty] = []) (hheader : f [.header file.package] = [])
    (himported : f (file.nameTable.imports.map .imported) = []) :
    f file.layout = file.interfaces.flatMap fun interface => f interface.layout := by
  have hpackage : f (packageLayout file.package) = [] := by
    rw [packageLayout]
    split
    · exact hf.nil
    · refine (hf.append [.header file.package] [.empty]).trans ?_
      rw [hheader, hempty, List.append_nil]
  have himports : f (importsLayout file.nameTable.imports) = [] := by
    rw [importsLayout]
    split
    · exact hf.nil
    · rw [hf.append, himported, hempty, List.append_nil]
  rw [layout, hf.append, hf.append, hpackage, himports, hf.intercalate_of_nil hempty,
    List.flatMap_map]
  rfl

end

/-- The lines of an interface that are of a kind. -/
def Interface.linesFor (interface : Interface) : LineKind → List Line
  | .interface => [.opening interface]
  | .ownUse => interface.annotations.map .ownUse
  | .memberUse => (interface.members.flatMap memberUses).map .memberUse
  | .property => interface.properties.map fun property => .declaration (.inl property)
  | .function => interface.functions.map fun function => .declaration (.inr function)
  | .package => []
  | .imported => []
  | .closing => if interface.members.isEmpty then [] else [.closing]

theorem Interface.filter_kind (interface : Interface) {kind : LineKind} (h : kind ≠ .closing) :
    interface.layout.filter (·.kind? = some kind) = interface.linesFor kind := by
  have hproperties : interface.properties.flatMap (fun _ => ([] : List Line)) = [] := by simp
  have hfunctions : interface.functions.flatMap (fun _ => ([] : List Line)) = [] := by simp
  rw [piecewise_layout (.filter _) rfl (by simp [Line.kind?, Ne.symm h])]
  cases kind with
  | closing => exact absurd rfl h
  | _ =>
    simp [memberLayout, linesFor, Line.kind?, List.filter_map, Function.comp_def, members,
      List.flatMap_map, List.map_flatMap, ← List.map_eq_flatMap, hproperties, hfunctions]

namespace SourceFile

/-- The lines of a file that are of a kind, if it is for what interfaces declare. -/
theorem filter_kind (file : SourceFile) {kind : LineKind}
    (h : kind ∉ [.package, .imported, .closing]) :
    file.layout.filter (·.kind? = some kind) =
      file.interfaces.flatMap fun interface => interface.linesFor kind := by
  simp only [List.mem_cons, List.not_mem_nil, or_false, not_or] at h
  obtain ⟨hpackage, himported, hclosing⟩ := h
  rw [piecewise_layout (.filter _) file rfl (by simp [Line.kind?, Ne.symm hpackage])
    (by simp [Line.kind?, Ne.symm himported])]
  exact List.flatMap_congr fun interface _ => interface.filter_kind hclosing

/-- The annotations that have lines in a file are those of the interfaces and of their members. -/
theorem flatMap_uses (file : SourceFile) :
    file.layout.flatMap Line.uses = file.interfaces.flatMap Interface.annotationUses := by
  rw [piecewise_layout (.flatMap _) file rfl rfl (by simp [Line.uses])]
  refine List.flatMap_congr fun interface _ => ?_
  rw [interface.piecewise_layout (.flatMap _) rfl rfl, interface.annotationUses_eq]
  simp [memberLayout, Line.uses, List.flatMap_map]

end SourceFile

/-! ## Blank lines -/

section

variable (names : NameTable)

theorem Line.isBlank_text {line : Line} (h : line ≠ .empty) :
    isBlank (line.text names) = false := by
  obtain ⟨kind, hkind⟩ := Option.ne_none_iff_exists'.1 (mt kind?_eq_none_iff.1 h)
  obtain ⟨rest, hrest⟩ := exists_text_eq names hkind
  have hstart : isBlank kind.start = false := by cases kind <;> decide
  rw [hrest, isBlank, String.toList_append, List.all_append, Bool.and_eq_false_iff]
  exact .inl hstart

/-- Lines that are not empty are a block. -/
theorem isBlock_textsOf {layout : List Line} (hne : layout ≠ [])
    (h : ∀ line ∈ layout, line ≠ .empty) : IsBlock (textsOf names layout) := by
  refine .of_forall (by simpa [textsOf] using hne) fun text htext => ?_
  obtain ⟨line, hline, rfl⟩ := List.mem_map.1 htext
  exact line.isBlank_text names (h line hline)

theorem isBlock_memberLayout (member : Property ⊕ Function) :
    IsBlock (textsOf names (memberLayout member)) :=
  isBlock_textsOf names (by simp [memberLayout]) fun line hline => by
    simp only [memberLayout, List.mem_append, List.mem_map, List.mem_singleton] at hline
    rintro rfl
    simp at hline

theorem isBlock_interfaceLayout (interface : Interface) :
    IsBlock (textsOf names interface.layout) := by
  have hhead : IsBlock (textsOf names
      (interface.annotations.map .ownUse ++ [.opening interface])) :=
    isBlock_textsOf names (by simp) fun line hline => by
      rintro rfl
      simp at hline
  rw [Interface.layout, Interface.bodyLayout]
  split
  · rwa [List.append_nil]
  · next hmembers =>
    rw [textsOf_append, textsOf_append _ (List.intercalate _ _), textsOf_intercalate]
    refine hhead.append (.append (.intercalate ?_ ?_)
      (isBlock_textsOf names (List.cons_ne_nil _ _) ?_))
    · simpa using hmembers
    · intro block hblock
      obtain ⟨layout, hlayout, rfl⟩ := List.mem_map.1 hblock
      obtain ⟨member, -, rfl⟩ := List.mem_map.1 hlayout
      exact isBlock_memberLayout names member
    · rintro line hline rfl
      simp at hline

end

/-- Empty lines stand only between two other lines. -/
theorem SourceFile.isBlock_layout (file : SourceFile) (h : file.interfaces ≠ []) :
    IsBlock (textsOf file.nameTable file.layout) := by
  have hinterfaces : IsBlock (textsOf file.nameTable
      ([.empty].intercalate (file.interfaces.map Interface.layout))) := by
    rw [textsOf_intercalate]
    refine .intercalate (by simpa using h) fun block hblock => ?_
    obtain ⟨layout, hlayout, rfl⟩ := List.mem_map.1 hblock
    obtain ⟨interface, -, rfl⟩ := List.mem_map.1 hlayout
    exact isBlock_interfaceLayout _ interface
  -- The package and the imports each have an empty line after them.
  have hbefore : ∀ (before : List Line) {after : List String}, before ≠ [] →
      (∀ line ∈ before, line ≠ .empty) → IsBlock after →
        IsBlock (textsOf file.nameTable (before ++ [.empty]) ++ after) := by
    intro before after hne hlines hafter
    rw [textsOf_append]
    exact (isBlock_textsOf _ hne hlines).append_empty hafter
  have himports : IsBlock (textsOf file.nameTable (importsLayout file.nameTable.imports ++
      [.empty].intercalate (file.interfaces.map Interface.layout))) := by
    rw [textsOf_append, importsLayout]
    split
    · exact hinterfaces
    · next hne =>
      refine hbefore _ (by simpa using hne) (fun line hline => ?_) hinterfaces
      rintro rfl
      simp at hline
  rw [layout, List.append_assoc, textsOf_append, packageLayout]
  split
  · exact himports
  · refine hbefore [.header file.package] (List.cons_ne_nil _ _) (fun line hline => ?_) himports
    rintro rfl
    simp at hline

/-! ## Files -/

namespace SourceFile

/-- No name in a file has a line end in it, and neither has code that is given for arguments.
Strings among the values of arguments are not restricted. -/
structure HasOneLineNames (file : SourceFile) : Prop where
  package : IsOneLine file.package
  classNames : ∀ n ∈ file.classNames, IsOneLine n.text
  interfaces : ∀ interface ∈ file.interfaces, IsOneLine interface.name
  members : ∀ interface ∈ file.interfaces, ∀ member ∈ interface.members,
    IsOneLine (memberName member)
  arguments : ∀ interface ∈ file.interfaces, ∀ use ∈ interface.annotationUses,
    ∀ member ∈ use.members, member.IsGiven

variable {file : SourceFile}

namespace HasOneLineNames

/-- Classes are written in one line. -/
theorem isOneLine_name (h : file.HasOneLineNames) {n : QualifiedName}
    (hn : n ∈ file.classNames) : IsOneLine (file.nameTable.text n) :=
  NameTable.isOneLine_text _ _ (h.classNames n hn)

variable {interface : Interface}

theorem isOneLine_use (h : file.HasOneLineNames) (hinterface : interface ∈ file.interfaces)
    {use : AnnotationUse} (huse : use ∈ interface.annotations) :
    IsOneLine (use.render file.nameTable) := by
  refine AnnotationUse.isOneLine_render (h.arguments interface hinterface use ?_) fun n hn =>
    h.isOneLine_name (List.mem_flatMap.2 ⟨interface, hinterface, ?_⟩)
  · rw [interface.annotationUses_eq]
    exact List.mem_append_left _ huse
  · rw [interface.classNames_eq]
    exact List.mem_append_left _ (List.mem_flatMap.2 ⟨use, huse, hn⟩)

theorem isOneLine_member (h : file.HasOneLineNames) (hinterface : interface ∈ file.interfaces)
    {member : Property ⊕ Function} (hmember : member ∈ interface.members) :
    ∀ line ∈ linesOf file.nameTable member, IsOneLine line := by
  refine isOneLine_linesOf (h.members interface hinterface member hmember) (fun use huse =>
    h.arguments interface hinterface use ?_) fun n hn =>
      h.isOneLine_name (List.mem_flatMap.2 ⟨interface, hinterface, ?_⟩)
  · rw [interface.annotationUses_eq]
    exact List.mem_append_right _ (List.mem_flatMap.2 ⟨member, hmember, huse⟩)
  · rw [interface.classNames_eq]
    exact List.mem_append_right _ (List.mem_flatMap.2 ⟨member, hmember, hn⟩)

theorem isOneLine_opening (h : file.HasOneLineNames) (hinterface : interface ∈ file.interfaces) :
    IsOneLine ((Line.opening interface).text file.nameTable) := by
  refine .append (by decide) (.append (isOneLine_escape (h.interfaces interface hinterface)) ?_)
  rw [Interface.opening]
  split <;> decide

theorem isOneLine_memberLayout (h : file.HasOneLineNames) (hinterface : interface ∈ file.interfaces)
    {member : Property ⊕ Function} (hmember : member ∈ interface.members) :
    ∀ text ∈ textsOf file.nameTable (memberLayout member), IsOneLine text := by
  intro text htext
  rw [textsOf_memberLayout] at htext
  obtain ⟨line, hline, rfl⟩ := List.mem_map.1 htext
  exact .append (by decide) (h.isOneLine_member hinterface hmember line hline)

theorem isOneLine_interfaceLayout (h : file.HasOneLineNames)
    (hinterface : interface ∈ file.interfaces) :
    ∀ text ∈ textsOf file.nameTable interface.layout, IsOneLine text := by
  have huses : ∀ text ∈ textsOf file.nameTable (interface.annotations.map .ownUse),
      IsOneLine text := by
    rw [textsOf, List.map_map]
    exact List.forall_mem_map.2 fun use huse => h.isOneLine_use hinterface huse
  have hopening : ∀ text ∈ textsOf file.nameTable [.opening interface], IsOneLine text :=
    List.forall_mem_singleton.2 (h.isOneLine_opening hinterface)
  have hbody : ∀ text ∈ textsOf file.nameTable interface.bodyLayout, IsOneLine text := by
    rw [Interface.bodyLayout]
    split
    · exact List.forall_mem_nil _
    · have hclosing : IsOneLine "\x7d" := by decide
      rw [textsOf_append, List.forall_mem_append]
      exact ⟨isOneLine_textsOf_intercalate _ (List.forall_mem_map.2 fun member hmember =>
        h.isOneLine_memberLayout hinterface hmember), List.forall_mem_singleton.2 hclosing⟩
  rw [Interface.layout, textsOf_append, textsOf_append, List.forall_mem_append,
    List.forall_mem_append]
  exact ⟨⟨huses, hopening⟩, hbody⟩

/-- Then each line of the file is one line. -/
theorem isOneLine_textsOf (h : file.HasOneLineNames) :
    ∀ text ∈ textsOf file.nameTable file.layout, IsOneLine text := by
  have hpackage : ∀ text ∈ textsOf file.nameTable (packageLayout file.package),
      IsOneLine text := by
    rw [packageLayout]
    split
    · exact List.forall_mem_nil _
    · refine List.forall_mem_cons.2 ⟨.append (by decide) (isOneLine_packageText h.package), ?_⟩
      exact List.forall_mem_singleton.2 (List.not_mem_nil)
  have himports : ∀ text ∈ textsOf file.nameTable (importsLayout file.nameTable.imports),
      IsOneLine text := by
    rw [importsLayout]
    split
    · exact List.forall_mem_nil _
    · rw [textsOf_append, List.forall_mem_append, textsOf, List.map_map]
      refine ⟨List.forall_mem_map.2 fun name hname => ?_,
        List.forall_mem_singleton.2 (List.not_mem_nil)⟩
      have hmem : name ∈ file.classNames := (NameTable.mem_imports_ofNames.1 hname).1.mem
      exact .append (by decide) (isOneLine_qualifiedText (h.classNames name hmem))
  rw [layout, textsOf_append, textsOf_append, List.forall_mem_append, List.forall_mem_append]
  exact ⟨⟨hpackage, himports⟩, isOneLine_textsOf_intercalate _ (List.forall_mem_map.2
    fun interface hinterface => h.isOneLine_interfaceLayout hinterface)⟩

end HasOneLineNames

/-- The lines of the text of a file that begin in one way. -/
def linesFrom (file : SourceFile) (start : String) : List String :=
  (lines file.toGenerated.content).filter (startsWith start)

/-- The lines of a file's text tell what the file declares: there is one for each interface, which
names it, one for each property, each function and each annotation. The text ends in one line end,
and there are no two blank lines in a row. -/
structure IsLaidOut (file : SourceFile) : Prop where
  interfaces : List.Forall₂ (fun line name => line = "public interface " ++ escape name ∨
      line = "public interface " ++ escape name ++ " \x7b")
    (file.linesFrom "public interface ") file.toGenerated.declarations
  properties : file.linesFrom "  public val " = file.interfaces.flatMap fun interface =>
    interface.properties.map fun property => "  " ++ property.declaration file.nameTable
  functions : file.linesFrom "  public fun " = file.interfaces.flatMap fun interface =>
    interface.functions.map fun function => "  " ++ function.declaration file.nameTable
  annotations : file.linesFrom "@" = file.interfaces.flatMap fun interface =>
    interface.annotations.map (AnnotationUse.render file.nameTable)
  memberAnnotations : file.linesFrom "  @" = file.interfaces.flatMap fun interface =>
    (interface.members.flatMap memberUses).map fun use => "  " ++ use.render file.nameTable
  ends : ∃ start c, file.toGenerated.content.toList = start ++ [c, '\n'] ∧ c ≠ '\n'
  spaced : (lines file.toGenerated.content).IsChain Spaced

theorem HasOneLineNames.lines_content (h : file.HasOneLineNames) :
    lines file.toGenerated.content = textsOf file.nameTable file.layout := by
  have hcontent : file.toGenerated.content = joinLines (textsOf file.nameTable file.layout) :=
    file.render_eq_joinLines
  rw [hcontent, lines_joinLines h.isOneLine_textsOf]

/-- The lines that begin like those of a kind are those of this kind in each interface. -/
theorem HasOneLineNames.linesFrom_start (h : file.HasOneLineNames) (kind : LineKind)
    (hkind : kind ∉ [.package, .imported, .closing]) {texts : Interface → List String}
    (htexts : ∀ interface, textsOf file.nameTable (interface.linesFor kind) = texts interface) :
    file.linesFrom kind.start = file.interfaces.flatMap texts := by
  rw [linesFrom, h.lines_content, filter_textsOf, file.filter_kind hkind, textsOf,
    List.map_flatMap]
  exact List.flatMap_congr fun interface _ => htexts interface

theorem HasOneLineNames.linesFrom_interface (h : file.HasOneLineNames) :
    file.linesFrom "public interface " =
      file.interfaces.map fun interface => (Line.opening interface).text file.nameTable := by
  rw [List.map_eq_flatMap]
  exact h.linesFrom_start .interface (by decide) fun _ => rfl

/-- **Every file with interfaces is laid out in lines**, if there are no line ends in the names. -/
theorem isLaidOut (h : file.HasOneLineNames) (hne : file.interfaces ≠ []) : file.IsLaidOut where
  interfaces := by
    change List.Forall₂ _ _ (file.interfaces.map (·.name))
    rw [h.linesFrom_interface, List.forall₂_map_left_iff, List.forall₂_map_right_iff,
      List.forall₂_same]
    exact fun interface _ => Line.text_opening_cases interface
  properties := h.linesFrom_start .property (by decide) fun interface => by
    rw [Interface.linesFor, textsOf, List.map_map]
    rfl
  functions := h.linesFrom_start .function (by decide) fun interface => by
    rw [Interface.linesFor, textsOf, List.map_map]
    rfl
  annotations := h.linesFrom_start .ownUse (by decide) fun interface => by
    rw [Interface.linesFor, textsOf, List.map_map]
    rfl
  memberAnnotations := h.linesFrom_start .memberUse (by decide) fun interface => by
    rw [Interface.linesFor, textsOf, List.map_map]
    rfl
  ends := by
    change ∃ start c, file.render.toList = _ ∧ _
    rw [file.render_eq_joinLines]
    exact (file.isBlock_layout hne).exists_end h.isOneLine_textsOf
  spaced := by
    rw [h.lines_content]
    exact (file.isBlock_layout hne).spaced

theorem isGiven_routeArguments : ∀ code ∈ routeArguments.map AnnotationUse.argumentCode,
    code.IsGiven := by
  refine List.forall_mem_map.2 fun argument hargument => Code.isGiven_argumentCode ?_ ?_
  · revert argument
    decide
  · revert argument
    decide

theorem hasOneLineNames_routesFile (name : String) : (routesFile name).HasOneLineNames where
  package := by
    change IsOneLine "app"
    decide
  classNames := by
    change ∀ n ∈ (routesFile "").classNames, IsOneLine n.text
    decide
  interfaces := by
    rw [routesFile, List.forall_mem_cons, List.forall_mem_singleton]
    decide
  members := by
    rw [routesFile, List.forall_mem_cons, List.forall_mem_singleton]
    exact ⟨List.forall_mem_cons.2 ⟨by decide, List.forall_mem_singleton.2 (by decide)⟩,
      List.forall_mem_nil _⟩
  arguments := by
    rw [routesFile, List.forall_mem_cons, List.forall_mem_singleton]
    refine ⟨?_, List.forall_mem_nil _⟩
    change ∀ use ∈ [AnnotationUse.ofName ⟨"p.Module"⟩, _], _
    rw [List.forall_mem_cons, List.forall_mem_singleton]
    exact ⟨List.forall_mem_nil _, isGiven_routeArguments⟩

/-- A file with a line end in a string. -/
theorem isLaidOut_routes : (routesFile "Routes").HasOneLineNames ∧
    (routesFile "Routes").interfaces ≠ [] ∧ (routesFile "Routes").IsLaidOut :=
  ⟨hasOneLineNames_routesFile "Routes", List.cons_ne_nil _ _,
    isLaidOut (hasOneLineNames_routesFile "Routes") (List.cons_ne_nil _ _)⟩

end SourceFile

end Wiring.Kotlin
