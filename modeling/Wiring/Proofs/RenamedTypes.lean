import Wiring.Proofs.DisplayedTypes

/-!
# Renamed types

A type in a source file is written like the type of the declarations that it was made of, once each
class there has the name under which the file knows it. The one text is put together from the texts of the
arguments, the other one is written piece after piece.

* `TypeRef.rename`, `TypeRef.names_rename`: other names for the classes in a type;
* **`render_ofRef`**: a type in a source file is written as the renamed type is displayed.
-/

namespace Wiring

open Kotlin

namespace TypeRef

/-! ## Other names -/

section

variable (text : QualifiedName → String)

mutual

/-- A type with another text for each class in it, at any depth. -/
def rename : TypeRef → TypeRef
  | ⟨head, arguments, nullable⟩ => ⟨⟨text head⟩, renameArguments arguments, nullable⟩
  termination_by structural ref => ref

/-- The arguments of a type with other texts for the classes in them. -/
def renameArguments : List (TypeArgument TypeRef) → List (TypeArgument TypeRef)
  | [] => []
  | .star :: rest => .star :: renameArguments rest
  | .type ref :: rest => .type ref.rename :: renameArguments rest
  termination_by structural arguments => arguments

end

theorem argumentNames_renameArguments {arguments : List (TypeArgument TypeRef)}
    (h : ∀ ref, TypeArgument.type ref ∈ arguments →
      (ref.rename text).names = ref.names.map fun n => ⟨text n⟩) :
    argumentNames (renameArguments text arguments) =
      (argumentNames arguments).map fun n => ⟨text n⟩ := by
  induction arguments with
  | nil => rfl
  | cons argument rest ih =>
    have hrest := ih fun ref hmem => h ref (List.mem_cons_of_mem _ hmem)
    cases argument with
    | star => exact hrest
    | type ref =>
      rw [renameArguments, argumentNames, h ref List.mem_cons_self, hrest, argumentNames,
        List.map_append]

/-- All classes of a type are renamed, each in its place. -/
theorem names_rename (ref : TypeRef) :
    (ref.rename text).names = ref.names.map fun n => ⟨text n⟩ := by
  induction ref using TypeRef.induction with
  | mk head arguments nullable ih =>
    rw [rename, names, argumentNames_renameArguments text ih, names, List.map_cons]

end

end TypeRef

/-! ## Types in source files -/

variable (names : NameTable)

theorem renderAll_ofArguments {arguments : List (TypeArgument TypeRef)}
    (h : ∀ ref, TypeArgument.type ref ∈ arguments →
      (TypeName.ofRef ref).render names = (ref.rename names.text).display) :
    TypeName.renderAll names (TypeName.ofArguments arguments) =
      (TypeRef.renameArguments names.text arguments).map TypeRef.argumentText := by
  induction arguments with
  | nil => rfl
  | cons argument rest ih =>
    have hrest := ih fun ref hmem => h ref (List.mem_cons_of_mem _ hmem)
    cases argument with
    | star =>
      rw [TypeName.ofArguments, TypeName.renderAll, hrest, TypeName.render,
        TypeRef.renameArguments, List.map_cons, TypeRef.argumentText]
    | type ref =>
      rw [TypeName.ofArguments, TypeName.renderAll, hrest, h ref List.mem_cons_self,
        TypeRef.renameArguments, List.map_cons, TypeRef.argumentText]

/-- **A type in a source file is written as the type that it was made of is displayed**, with each
class under the name that the table gives it, and so it is written behind any output. -/
theorem render_ofRef (ref : TypeRef) :
    (TypeName.ofRef ref).render names = (ref.rename names.text).display ∧
      ∀ out, (ref.rename names.text).writeOn out = out ++ (TypeName.ofRef ref).render names := by
  have hdisplay : (TypeName.ofRef ref).render names = (ref.rename names.text).display := by
    induction ref using TypeRef.induction with
    | mk head arguments nullable ih =>
      rw [TypeName.ofRef, TypeName.render, renderAll_ofArguments names ih, TypeRef.rename,
        TypeRef.display_mk]
  exact ⟨hdisplay, fun out => hdisplay ▸ TypeRef.writeOn_eq _ out⟩

end Wiring
