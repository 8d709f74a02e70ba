import Mathlib.Data.List.Perm.Basic
import Wiring.Proofs.WrittenValues

/-!
# Templates

What is written for interfaces is a template in which the texts of classes are filled in. The
classes in the template of a file are those that the file collects before it chooses its imports,
each as often as it is collected.

* `TypeName.code`, `AnnotationUse.code`, `Property.lineCodes`, `Function.lineCodes`,
  `Interface.code`, `SourceFile.code`: templates, each with the text that it stands for and with the
  classes in it;
* `DependsOn`: what is written depends on the text of a class;
  `Code.dependsOn_iff`: these are the classes in a template;
* **`SourceFile.lookups_collected`**: collected and looked-up classes, and imports.
-/

namespace Wiring.Kotlin

variable (names : NameTable)

/-! ## Code -/

namespace Code

theorem render_append (code other : Code) :
    (code ++ other).render names = code.render names ++ other.render names := by
  rw [render, List.map_append, String.join_append]
  rfl

@[simp] theorem render_literal (text : String) : (literal text).render names = text := by
  simp [render, literal, CodePart.render]

@[simp] theorem render_reference (name : QualifiedName) :
    render names [.reference name] = names.text name := by
  simp [render, CodePart.render]

theorem render_flatMap {α : Type} (items : List α) (code : α → Code) :
    render names (items.flatMap code) =
      String.join (items.map fun item => (code item).render names) := by
  induction items with
  | nil => rfl
  | cons item items ih =>
    rw [List.flatMap_cons, render_append, ih, List.map_cons, String.join_cons]

/-- Codes with a text between any two of them. -/
def joined (separator : String) (codes : List Code) : Code :=
  (literal separator).intercalate codes

theorem render_joined (separator : String) (codes : List Code) :
    (joined separator codes).render names = separator.intercalate (codes.map (render names)) := by
  induction codes with
  | nil => rfl
  | cons code codes ih =>
    cases codes with
    | nil => simp [joined]
    | cons next codes =>
      rw [joined, List.intercalate_cons_cons, render_append, render_append, render_literal]
      rw [joined] at ih
      rw [ih, List.map_cons, List.map_cons, List.map_cons, String.intercalate_cons_cons]

@[simp] theorem classNames_literal (text : String) : (literal text).classNames = [] := rfl

@[simp] theorem classNames_reference (name : QualifiedName) :
    classNames [.reference name] = [name] := rfl

theorem classNames_flatMap {α : Type} (items : List α) (code : α → Code) :
    classNames (items.flatMap code) = items.flatMap fun item => (code item).classNames := by
  induction items with
  | nil => rfl
  | cons item items ih => rw [List.flatMap_cons, classNames_append, ih, List.flatMap_cons]

theorem classNames_joined (separator : String) (codes : List Code) :
    (joined separator codes).classNames = codes.flatMap classNames := by
  induction codes with
  | nil => rfl
  | cons code codes ih =>
    cases codes with
    | nil => simp [joined]
    | cons next codes =>
      rw [joined, List.intercalate_cons_cons, classNames_append, classNames_append]
      rw [joined] at ih
      rw [ih, classNames_literal, List.append_nil]
      exact List.flatMap_cons.symm

end Code

/-! ## Types -/

/-- The template of arguments in angle brackets. -/
def angledCode (arguments : List Code) : Code :=
  if arguments.isEmpty then []
  else Code.literal "<" ++ Code.joined ", " arguments ++ Code.literal ">"

theorem render_angledCode (arguments : List Code) :
    (angledCode arguments).render names = angled (arguments.map (Code.render names)) := by
  cases arguments with
  | nil => rfl
  | cons argument arguments =>
    simp [angledCode, angled, Code.render_append, Code.render_joined, String.append_assoc]

theorem classNames_angledCode (arguments : List Code) :
    (angledCode arguments).classNames = arguments.flatMap Code.classNames := by
  cases arguments with
  | nil => rfl
  | cons argument arguments => simp [angledCode, Code.classNames_append, Code.classNames_joined]

namespace TypeName

mutual

/-- The template of a type. -/
def code : TypeName → Code
  | .star => Code.literal "*"
  | .named name arguments nullable =>
    [.reference name] ++ angledCode (codeAll arguments) ++
      Code.literal (if nullable then "?" else "")
  termination_by structural type => type

/-- The templates of types. -/
def codeAll : List TypeName → List Code
  | [] => []
  | type :: rest => type.code :: codeAll rest
  termination_by structural types => types

end

theorem codeAll_eq (types : List TypeName) : codeAll types = types.map code := by
  induction types with
  | nil => rw [codeAll, List.map_nil]
  | cons type types ih => rw [codeAll, ih, List.map_cons]

theorem render_code (type : TypeName) : type.code.render names = type.render names := by
  induction type using TypeName.induction with
  | star => simp [code, render]
  | named name arguments nullable ih =>
    rw [code, codeAll_eq, Code.render_append, Code.render_append, render_angledCode,
      Code.render_reference, Code.render_literal, render, renderAll_eq, List.map_map]
    congr 3
    exact List.map_congr_left ih

theorem listClassNames_eq (types : List TypeName) :
    listClassNames types = types.flatMap classNames := by
  induction types with
  | nil => rw [listClassNames, List.flatMap_nil]
  | cons type types ih => rw [listClassNames, ih, List.flatMap_cons]

theorem classNames_code (type : TypeName) : type.code.classNames = type.classNames := by
  induction type using TypeName.induction with
  | star => simp [code, classNames]
  | named name arguments nullable ih =>
    rw [code, codeAll_eq, Code.classNames_append, Code.classNames_append, classNames_angledCode,
      Code.classNames_reference, Code.classNames_literal, List.append_nil, classNames,
      listClassNames_eq, List.flatMap_map]
    exact congrArg _ (List.flatMap_congr ih)

end TypeName

/-! ## Annotations -/

/-- The template of an annotation. -/
def AnnotationUse.code (use : AnnotationUse) : Code :=
  Code.literal ("@" ++ match use.useSite with
    | some site => site.keyword ++ ":"
    | none => "") ++ [.reference use.name] ++
    if use.members.isEmpty then []
    else Code.literal "(" ++ Code.joined ", " use.members ++ Code.literal ")"

theorem AnnotationUse.render_code (use : AnnotationUse) :
    use.code.render names = use.render names := by
  obtain ⟨name, members, site⟩ := use
  rw [code, Code.render_append, Code.render_append, Code.render_literal, Code.render_reference,
    render]
  congr 1
  cases members with
  | nil => rfl
  | cons member members => simp [Code.render_append, Code.render_joined, String.append_assoc]

theorem AnnotationUse.classNames_code (use : AnnotationUse) :
    use.code.classNames = use.classNames := by
  obtain ⟨name, members, site⟩ := use
  rw [code, Code.classNames_append, Code.classNames_append, Code.classNames_literal,
    Code.classNames_reference, classNames]
  cases members with
  | nil => rfl
  | cons member members => simp [Code.classNames_append, Code.classNames_joined]

/-! ## Members -/

/-- The template of a receiver with its dot. -/
def receiverCode : Option TypeName → Code
  | none => []
  | some type =>
    if type.isNullable then Code.literal "(" ++ type.code ++ Code.literal ")."
    else type.code ++ Code.literal "."

theorem render_receiverCode (receiver : Option TypeName) :
    (receiverCode receiver).render names = renderReceiver names receiver := by
  cases receiver with
  | none => rfl
  | some type =>
    rw [receiverCode, renderReceiver]
    split <;> simp [Code.render_append, TypeName.render_code, String.append_assoc]

theorem classNames_receiverCode (receiver : Option TypeName) :
    (receiverCode receiver).classNames = optionalClassNames receiver := by
  cases receiver with
  | none => rfl
  | some type =>
    rw [receiverCode]
    split <;> simp [Code.classNames_append, TypeName.classNames_code, optionalClassNames]

/-- The template of the type that a function returns. -/
def returnsCode : Option TypeName → Code
  | none => []
  | some type => Code.literal ": " ++ type.code

theorem classNames_returnsCode (returns : Option TypeName) :
    (returnsCode returns).classNames = optionalClassNames returns := by
  cases returns with
  | none => rfl
  | some type => simp [returnsCode, Code.classNames_append, TypeName.classNames_code,
      optionalClassNames]

/-- The templates of the lines of a property. -/
def Property.lineCodes (property : Property) : List Code :=
  property.annotations.map AnnotationUse.code ++
    [Code.literal "public val " ++ receiverCode property.receiver ++
      Code.literal (escape property.name) ++ Code.literal ": " ++ property.type.code]

/-- The templates of the lines of a function. -/
def Function.lineCodes (function : Function) : List Code :=
  function.annotations.map AnnotationUse.code ++
    [Code.literal "public fun " ++ receiverCode function.receiver ++
      Code.literal (escape function.name) ++ Code.literal "()" ++ returnsCode function.returns]

theorem map_render_code (uses : List AnnotationUse) :
    (uses.map AnnotationUse.code).map (Code.render names) =
      uses.map (AnnotationUse.render names) := by
  rw [List.map_map]
  exact List.map_congr_left fun use _ => use.render_code names

theorem flatMap_classNames_code (uses : List AnnotationUse) :
    (uses.map AnnotationUse.code).flatMap Code.classNames =
      uses.flatMap AnnotationUse.classNames := by
  rw [List.flatMap_map]
  exact List.flatMap_congr fun use _ => use.classNames_code

theorem Property.render_lineCodes (property : Property) :
    property.lineCodes.map (Code.render names) = property.lines names := by
  rw [lineCodes, List.map_append, map_render_code, lines]
  simp [Code.render_append, render_receiverCode, TypeName.render_code, String.append_assoc]

theorem Function.render_lineCodes (function : Function) :
    function.lineCodes.map (Code.render names) = function.lines names := by
  rw [lineCodes, List.map_append, map_render_code, lines]
  cases hreturns : function.returns <;>
    simp [returnsCode, Code.render_append, render_receiverCode, TypeName.render_code,
      String.append_assoc]

theorem Property.classNames_lineCodes (property : Property) :
    (property.lineCodes.flatMap Code.classNames).Perm property.classNames := by
  have hcodes : property.lineCodes.flatMap Code.classNames =
      property.annotations.flatMap AnnotationUse.classNames ++
        (optionalClassNames property.receiver ++ property.type.classNames) := by
    rw [lineCodes, List.flatMap_append, flatMap_classNames_code]
    simp [Code.classNames_append, classNames_receiverCode, TypeName.classNames_code]
  rw [hcodes, classNames]
  exact List.perm_append_comm.trans (List.perm_append_comm.append_right _)

theorem Function.classNames_lineCodes (function : Function) :
    (function.lineCodes.flatMap Code.classNames).Perm function.classNames := by
  have hcodes : function.lineCodes.flatMap Code.classNames =
      function.annotations.flatMap AnnotationUse.classNames ++
        (optionalClassNames function.receiver ++ optionalClassNames function.returns) := by
    rw [lineCodes, List.flatMap_append, flatMap_classNames_code]
    simp [Code.classNames_append, classNames_receiverCode, classNames_returnsCode]
  rw [hcodes, classNames]
  exact List.perm_append_comm

/-! ## Interfaces and files -/

/-- The template of a member within an interface. -/
def memberCode (lines : List Code) : Code :=
  lines.flatMap fun line => Code.literal "  " ++ line ++ Code.literal "\n"

theorem render_memberCode (lines : List Code) :
    (memberCode lines).render names = renderMember (lines.map (Code.render names)) := by
  rw [memberCode, Code.render_flatMap, renderMember, List.map_map]
  simp [Code.render_append, endLine, Function.comp_def, String.append_assoc]

theorem classNames_memberCode (lines : List Code) :
    (memberCode lines).classNames = lines.flatMap Code.classNames := by
  rw [memberCode, Code.classNames_flatMap]
  simp [Code.classNames_append]

namespace Interface

/-- The templates of the lines of the members of an interface. -/
def memberLineCodes (interface : Interface) : List (List Code) :=
  interface.properties.map Property.lineCodes ++ interface.functions.map Function.lineCodes

theorem render_memberLineCodes (interface : Interface) :
    interface.memberLineCodes.map (List.map (Code.render names)) = interface.memberLines names := by
  rw [memberLineCodes, memberLines, List.map_append, List.map_map, List.map_map]
  congr 1
  · exact List.map_congr_left fun property _ => property.render_lineCodes names
  · exact List.map_congr_left fun function _ => function.render_lineCodes names

/-- The template of an interface. -/
def code (interface : Interface) : Code :=
  (interface.annotations.flatMap fun use => use.code ++ Code.literal "\n") ++
    Code.literal "public interface " ++ Code.literal (escape interface.name) ++
    if interface.memberLineCodes.isEmpty then Code.literal "\n"
    else Code.literal " \x7b\n" ++
      Code.joined "\n" (interface.memberLineCodes.map memberCode) ++ Code.literal "\x7d\n"

theorem render_code (interface : Interface) :
    interface.code.render names = interface.render names := by
  have hmembers : (interface.memberLineCodes.map memberCode).map (Code.render names) =
      (interface.memberLines names).map renderMember := by
    rw [← render_memberLineCodes, List.map_map, List.map_map]
    exact List.map_congr_left fun lines _ => render_memberCode names lines
  have hempty : (interface.memberLines names).isEmpty = interface.memberLineCodes.isEmpty := by
    rw [← render_memberLineCodes, List.isEmpty_map]
  have huses : (fun use : AnnotationUse => (use.code ++ Code.literal "\n").render names) =
      fun use => endLine (use.render names) := by
    funext use
    rw [Code.render_append, use.render_code, Code.render_literal, endLine]
  rw [code, Code.render_append, Code.render_append, Code.render_append, Code.render_flatMap, huses,
    Code.render_literal, Code.render_literal, render, hempty]
  congr 1
  split
  · rw [Code.render_literal]
  · rw [Code.render_append, Code.render_append, Code.render_joined, Code.render_literal,
      Code.render_literal, hmembers]

theorem classNames_code (interface : Interface) :
    interface.code.classNames.Perm interface.classNames := by
  have hbody : (if interface.memberLineCodes.isEmpty then Code.literal "\n"
      else Code.literal " \x7b\n" ++ Code.joined "\n" (interface.memberLineCodes.map memberCode) ++
        Code.literal "\x7d\n").classNames =
      interface.memberLineCodes.flatMap (List.flatMap Code.classNames) := by
    split
    · next h => simp [List.isEmpty_iff.1 h]
    · simp [Code.classNames_append, Code.classNames_joined, List.flatMap_map, classNames_memberCode]
  have huses : (fun use : AnnotationUse => (use.code ++ Code.literal "\n").classNames) =
      AnnotationUse.classNames := by
    funext use
    rw [Code.classNames_append, use.classNames_code, Code.classNames_literal, List.append_nil]
  rw [code, Code.classNames_append, Code.classNames_append, Code.classNames_append,
    Code.classNames_flatMap, huses, Code.classNames_literal, Code.classNames_literal,
    List.append_nil, List.append_nil, hbody, memberLineCodes, List.flatMap_append, List.flatMap_map,
    List.flatMap_map, ← List.append_assoc, classNames]
  exact ((List.Perm.refl _).append (List.Perm.flatMap_left _ fun property _ =>
    property.classNames_lineCodes)).append (List.Perm.flatMap_left _ fun function _ =>
    function.classNames_lineCodes)

end Interface

/-! ## What a text depends on -/

/-- What is written depends on the text of a class: two tables that differ in no other text give
different results. -/
def DependsOn (write : NameTable → String) (n : QualifiedName) : Prop :=
  ∃ a b : NameTable, (∀ m, m ≠ n → a.text m = b.text m) ∧ write a ≠ write b

/-- A table that writes a class with the given text and all others in full. -/
def NameTable.single (n : QualifiedName) (text : String) : NameTable := ⟨[(n, text)], []⟩

theorem NameTable.text_single_self (n : QualifiedName) (text : String) :
    (single n text).text n = text := by
  simp [single, NameTable.text]

theorem NameTable.text_single_of_ne {m n : QualifiedName} (h : m ≠ n) (text : String) :
    (single n text).text m = qualifiedText m := by
  simp [single, NameTable.text, List.lookup_cons, beq_false_of_ne h]

namespace Code

variable {a b : NameTable} {code : Code} {n : QualifiedName}

/-- Tables that agree on the classes in a template fill it in alike. -/
theorem render_congr (h : ∀ n ∈ code.classNames, a.text n = b.text n) :
    code.render a = code.render b := by
  induction code with
  | nil => rfl
  | cons part code ih =>
    rw [← List.singleton_append, classNames_append, List.forall_mem_append] at h
    rw [← List.singleton_append, render_append, render_append, ih h.2]
    congr 1
    cases part with
    | literal text => rfl
    | reference name => simpa using h.1

/-- A class makes a template longer by its text at each place. -/
theorem length_render_single (code : Code) (n : QualifiedName) (text : String) :
    (code.render (.single n text)).length =
      (code.render (.single n "")).length + code.classNames.count n * text.length := by
  induction code with
  | nil => simp [render, classNames]
  | cons part code ih =>
    rw [← List.singleton_append, classNames_append, List.count_append, render_append,
      render_append, String.length_append, String.length_append, ih, Nat.add_mul]
    cases part with
    | literal text' => simp [render, CodePart.render, classNames]; omega
    | reference name =>
      rw [classNames_reference, render_reference, render_reference]
      by_cases hname : name = n
      · subst hname
        simp [NameTable.text_single_self]
        omega
      · simp [NameTable.text_single_of_ne hname, hname]
        omega

/-- **The text of a template depends on the classes in it.** -/
theorem dependsOn_iff : DependsOn (fun names => code.render names) n ↔ n ∈ code.classNames := by
  constructor
  · rintro ⟨a, b, hsame, hne⟩
    by_contra hn
    exact hne (render_congr fun m hm => hsame m fun heq => hn (heq ▸ hm))
  · intro hn
    refine ⟨.single n "x", .single n "", fun m hm => ?_, fun heq => ?_⟩
    · rw [NameTable.text_single_of_ne hm, NameTable.text_single_of_ne hm]
    · have hsame : code.render (.single n "x") = code.render (.single n "") := heq
      have hlength := length_render_single code n "x"
      have hcount := List.count_pos_iff.2 hn
      have hone : "x".length = 1 := rfl
      rw [hsame, hone] at hlength
      omega

end Code

/-! ## Files -/

namespace SourceFile

variable (file : SourceFile)

/-- The text of a file after its imports. -/
def body (names : NameTable) : String :=
  "\n".intercalate (file.interfaces.map (Interface.render names))

/-- The template of a file after its imports. -/
def code : Code := Code.joined "\n" (file.interfaces.map Interface.code)

theorem render_code : file.code.render names = file.body names := by
  rw [code, Code.render_joined, List.map_map, body]
  exact congrArg _ (List.map_congr_left fun interface _ => interface.render_code names)

theorem classNames_code : file.code.classNames.Perm file.classNames := by
  rw [code, Code.classNames_joined, List.flatMap_map, classNames]
  exact List.Perm.flatMap_left _ fun interface _ => interface.classNames_code

/-- **A file collects the classes that its body looks up.** Its body is a template in which the
texts of classes are filled in, and the classes in the template, which are those whose texts the
body depends on, are collected, each as often as it stands there. So for each of them the table of
names has chosen a class of its short name, and an imported class stands in the body with its short
name. -/
theorem lookups_collected :
    file.render = file.packageHeader ++ renderImports file.nameTable.imports ++
      file.body file.nameTable ∧
    (∀ names, file.body names = file.code.render names) ∧
    file.code.classNames.Perm file.classNames ∧
    (∀ n, n ∈ file.classNames ↔ DependsOn file.body n) ∧
    (∀ n ∈ file.code.classNames, ∃ m, m.shortName = n.shortName ∧
      file.nameTable.short.lookup m = some (escape n.shortName)) ∧
    ∀ n ∈ file.nameTable.imports, ∃ before after,
      file.code = before ++ .reference n :: after ∧
      file.body file.nameTable = Code.render file.nameTable before ++ escape n.shortName ++
        Code.render file.nameTable after := by
  have hmem : ∀ n, n ∈ file.code.classNames ↔ n ∈ file.classNames := fun n =>
    file.classNames_code.mem_iff
  have hbody : (fun names => file.code.render names) = file.body := funext fun names =>
    file.render_code names
  refine ⟨rfl, fun names => (file.render_code names).symm, file.classNames_code, fun n => ?_,
    fun n hn => ?_, fun n hn => ?_⟩
  · rw [← hmem, ← hbody, Code.dependsOn_iff]
  · obtain ⟨m, hfirst, hshort⟩ := NameTable.exists_isFirst ((hmem n).1 hn)
    refine ⟨m, hshort, ?_⟩
    rw [nameTable, NameTable.ofNames, NameTable.lookup_map_escape,
      if_pos (NameTable.mem_chosen.2 hfirst), hshort]
  · have hfirst := (NameTable.mem_imports_ofNames.1 hn).1
    obtain ⟨part, hpart, hreference⟩ := List.mem_filterMap.1 ((hmem n).2 hfirst.mem)
    cases part with
    | literal text => cases hreference
    | reference name =>
      cases hreference
      obtain ⟨before, after, hcode⟩ := List.append_of_mem hpart
      refine ⟨before, after, hcode, ?_⟩
      have htext : file.nameTable.text n = escape n.shortName := NameTable.text_of_isFirst hfirst
      rw [← file.render_code, hcode, Code.render_append, ← List.singleton_append,
        Code.render_append, Code.render_reference, htext, String.append_assoc]

end SourceFile

end Wiring.Kotlin
