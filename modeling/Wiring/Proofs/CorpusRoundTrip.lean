import Wiring.Proofs.CorpusReading
import Wiring.Proofs.JsonValues

/-!
# Documents of units

The document that is written for a unit is well-formed and is read as the unit.

* `CompilationUnit.plain_toJson`: what is written of a unit are proper texts and whole numbers;
* **`CompilationUnit.read?_print_eq_self`**: reading a written document gives the unit back.
-/

namespace Wiring

open Json

/-! ## Plain values -/

theorem QualifiedName.plain_toJson (name : QualifiedName) : Plain name.toJson := .text name.text

/-- A written list is plain if its items are. -/
theorem plain_array_map {α : Type} {write : α → Json} (h : ∀ a, Plain (write a)) (list : List α) :
    Plain (.array (list.map write)) := by
  refine .array _ fun item hitem => ?_
  obtain ⟨a, -, rfl⟩ := List.mem_map.1 hitem
  exact h a

theorem plain_namesToJson (names : List QualifiedName) : Plain (namesToJson names) :=
  plain_array_map QualifiedName.plain_toJson names

mutual

theorem TypeRef.plain_toJson : ∀ ref : TypeRef, Plain ref.toJson
  | ⟨head, arguments, nullable⟩ => by
    rw [toJson]
    refine .object _ ?_
    simp [head.plain_toJson, Plain.array _ (TypeRef.plain_argumentsToJson arguments),
      Plain.bool nullable]
  termination_by structural ref => ref

theorem TypeRef.plain_argumentsToJson : ∀ arguments : List (TypeArgument TypeRef),
    ∀ value ∈ argumentsToJson arguments, Plain value
  | [] => by simp [argumentsToJson]
  | .star :: rest => by
    rw [argumentsToJson, List.forall_mem_cons]
    exact ⟨.text "star", TypeRef.plain_argumentsToJson rest⟩
  | .type ref :: rest => by
    rw [argumentsToJson, List.forall_mem_cons]
    exact ⟨.object _ (by simp [TypeRef.plain_toJson ref]), TypeRef.plain_argumentsToJson rest⟩
  termination_by structural arguments => arguments

end

mutual

theorem AnnotationValue.plain_toJson : ∀ value : AnnotationValue, Plain value.toJson
  | .classLiteral name => .object _ (by simp [name.plain_toJson])
  | .string text => .object _ (by simp [Plain.text])
  | .int value => .object _ (by simp [Plain.int])
  | .bool value => .object _ (by simp [Plain.bool])
  | .enumEntry enumClass entry => by
    have hentry : Plain (.ofFields [("class", enumClass.toJson), ("entry", .text entry)]) :=
      .object _ (by simp [enumClass.plain_toJson, Plain.text])
    exact .object _ (by simp [hentry])
  | .array items =>
    .object _ (by simp [Plain.array _ (AnnotationValue.plain_itemsToJson items)])
  termination_by structural value => value

theorem AnnotationValue.plain_itemsToJson : ∀ items : List AnnotationValue,
    ∀ value ∈ itemsToJson items, Plain value
  | [] => by simp [itemsToJson]
  | item :: items => by
    rw [itemsToJson, List.forall_mem_cons]
    exact ⟨AnnotationValue.plain_toJson item, AnnotationValue.plain_itemsToJson items⟩
  termination_by structural items => items

end

theorem AnnotationArgument.plain_toJson (argument : AnnotationArgument) :
    Plain argument.toJson := by
  have hname : Plain ((argument.name.map Json.text).getD .null) := by
    cases argument.name with
    | none => exact .null
    | some name => exact .text name
  exact .object _ (by simp [hname, argument.value.plain_toJson])

theorem Annotation.plain_toJson (ann : Annotation) : Plain ann.toJson :=
  .object _ (by simp [ann.name.plain_toJson, plain_namesToJson,
    plain_array_map AnnotationArgument.plain_toJson])

theorem plain_annotationsToJson (annotations : List Annotation) :
    Plain (annotationsToJson annotations) :=
  plain_array_map Annotation.plain_toJson annotations

theorem FunctionDeclaration.plain_toJson (function : FunctionDeclaration) :
    Plain function.toJson :=
  .object _ (by simp [Plain.text, function.returnType.plain_toJson, plain_annotationsToJson])

theorem PropertyDeclaration.plain_toJson (property : PropertyDeclaration) :
    Plain property.toJson :=
  .object _ (by simp [Plain.text, property.type.plain_toJson, plain_annotationsToJson])

mutual

theorem ClassDeclaration.plain_toJson : ∀ c : ClassDeclaration, Plain c.toJson
  | ⟨name, package, kind, annotations, supertypes, functions, properties, nested⟩ => by
    rw [toJson]
    refine .object _ ?_
    simp [name.plain_toJson, Plain.text, plain_annotationsToJson, plain_namesToJson,
      plain_array_map FunctionDeclaration.plain_toJson,
      plain_array_map PropertyDeclaration.plain_toJson,
      Plain.array _ (ClassDeclaration.plain_listToJson nested)]
  termination_by structural c => c

theorem ClassDeclaration.plain_listToJson : ∀ classes : List ClassDeclaration,
    ∀ value ∈ listToJson classes, Plain value
  | [] => by simp [listToJson]
  | c :: classes => by
    rw [listToJson, List.forall_mem_cons]
    exact ⟨ClassDeclaration.plain_toJson c, ClassDeclaration.plain_listToJson classes⟩
  termination_by structural classes => classes

end

theorem CompilationUnit.plain_toJson (unit : CompilationUnit) : Plain unit.toJson := by
  have htable : Plain (supertypeTableToJson unit.externalSupertypes) := by
    refine .object _ fun field hfield => ?_
    obtain ⟨entry, -, rfl⟩ := List.mem_map.1 hfield
    exact plain_namesToJson entry.2
  have hclasses := Plain.array _ (ClassDeclaration.plain_listToJson unit.classes)
  exact .object _ (by simp [Plain.text, hclasses, htable])

/-- **Reading the document of a unit gives the unit**, if its whole numbers fit in words and arrays
and objects are not nested too deeply in it. -/
theorem CompilationUnit.read?_print_eq_self (unit : CompilationUnit)
    (hints : ∀ c ∈ unit.allClasses, c.IsWordSized)
    (hnesting : unit.toJson.nesting ≤ nestingLimit) :
    CompilationUnit.read? unit.print = some unit := by
  rw [read?, print, Json.read?_print unit.plain_toJson, Option.bind_some]
  exact unit.ofJson?_toJson hints hnesting

/-- A unit with a companion object, types with arguments, numbers at the ends of their range, and
texts that have to be escaped. -/
def storedUnit : CompilationUnit :=
  let key : Annotation := ⟨⟨"p.Key"⟩, [⟨some "modes", .array [.int (-9223372036854775808),
    .int 9223372036854775807, .array [], .enumEntry ⟨"p.Mode"⟩ "FAST"]⟩,
    ⟨none, .string "\"\\\n\x01\u2028é"⟩, ⟨none, .classLiteral ⟨""⟩⟩], [⟨"p.Qualifier"⟩]⟩
  let companion : ClassDeclaration :=
    { ClassDeclaration.ofName "p" "A.Companion" with
      functions := [⟨"f", ⟨⟨"p.Map"⟩, [.star, .type ⟨⟨"p.List"⟩, [.type (.ofClass ⟨"T"⟩)], true⟩],
        false⟩, [key]⟩] }
  ((CompilationUnit.empty.withClass
    ((ClassDeclaration.ofName "p" "A").withCompanion companion)).withExternalSupertypes
      ⟨"q.B"⟩ [⟨"q.C"⟩, ⟨"q.C"⟩]).withExternalSupertypes ⟨"q.A"⟩ []

theorem CompilationUnit.read?_print_storedUnit :
    (∀ c ∈ storedUnit.allClasses, c.IsWordSized) ∧ storedUnit.toJson.nesting ≤ nestingLimit ∧
      CompilationUnit.read? storedUnit.print = some storedUnit := by
  have hints : ∀ c ∈ storedUnit.allClasses, c.IsWordSized := by decide +kernel
  have hnesting : storedUnit.toJson.nesting ≤ nestingLimit := by decide +kernel
  exact ⟨hints, hnesting, storedUnit.read?_print_eq_self hints hnesting⟩

end Wiring
