import Wiring.Proofs.OutputPaths
import Wiring.Synthesis

/-!
# Names of what is generated for a class

The segments of a class below its package, joined with underscores, and a suffix make an identifier.
It tells the class again only if the segments have no underscores of their own.

* `ClassDeclaration.IsPlaced`: a class with a valid name in a package;
* `ClassDeclaration.relativeSegments_suffix`: what is left of a name below a package;
* `ClassDeclaration.isIdentifier_generatedName`: generated names are identifiers;
* `ClassDeclaration.name_eq_of_generatedName`: classes that a generated name tells apart.
-/

namespace Wiring

namespace ClassDeclaration

/-- A class whose name is valid and lies in its package, if it has one. -/
structure IsPlaced (c : ClassDeclaration) : Prop where
  name : c.name.isValid
  package : c.package = "" ∨
    (⟨c.package⟩ : QualifiedName).isValid ∧ ∃ rest, c.name.text = c.package ++ "." ++ rest

variable {c d : ClassDeclaration}

theorem IsPlaced.isPackage (h : c.IsPlaced) : Kotlin.IsPackage c.package :=
  h.package.imp_right And.left

theorem relativeSegments_of_empty (h : c.package = "") : c.relativeSegments = c.name.segments := by
  rw [relativeSegments, h]
  rfl

theorem relativeSegments_of_text_eq {rest : String} (hne : c.package ≠ "")
    (h : c.name.text = c.package ++ "." ++ rest) :
    c.relativeSegments = Text.segments '.' rest := by
  have hdrop : Text.dropStart? (c.package.toList ++ ['.']) c.name.text.toList =
      some rest.toList := by
    rw [Text.dropStart?_eq_some_iff, h]
    simp
  rw [relativeSegments, hdrop, if_neg (by simpa using hne), Option.getD_some]
  rfl

/-- A name has the segments of the package and those below it. -/
theorem IsPlaced.segments_eq (h : c.IsPlaced) :
    c.name.segments = Kotlin.packageSegments c.package ++ c.relativeSegments := by
  rcases h.package with hempty | ⟨hvalid, rest, hrest⟩
  · rw [relativeSegments_of_empty hempty, hempty, Kotlin.packageSegments_empty, List.nil_append]
  · have hne : c.package ≠ "" := by
      rintro hempty
      rw [hempty] at hvalid
      exact absurd hvalid (by decide)
    rw [relativeSegments_of_text_eq hne hrest, Kotlin.packageSegments_of_isValid hvalid,
      QualifiedName.segments, hrest, Text.segments_append '.' c.package rest rfl]

theorem relativeSegments_ne_nil (c : ClassDeclaration) : c.relativeSegments ≠ [] := by
  rw [relativeSegments]
  exact fun h => Text.splitOn_ne_nil _ _ (List.map_eq_nil_iff.1 h)

/-- The segments below the package are the last segments of the name, whatever the package is. -/
theorem relativeSegments_suffix (c : ClassDeclaration) :
    c.relativeSegments <:+ c.name.segments := by
  by_cases hempty : c.package = ""
  · exact ⟨[], relativeSegments_of_empty hempty⟩
  · cases hdrop : Text.dropStart? (c.package.toList ++ ['.']) c.name.text.toList with
    | none =>
      rw [relativeSegments, hdrop, if_neg (by simpa using hempty), Option.getD_none]
      exact List.suffix_refl _
    | some rest =>
      have htext : c.name.text = c.package ++ "." ++ String.ofList rest := by
        rw [← String.toList_inj, Text.dropStart?_eq_some_iff.1 hdrop]
        simp
      rw [relativeSegments_of_text_eq hempty htext, QualifiedName.segments, htext,
        Text.segments_append '.' c.package _ rfl]
      exact List.suffix_append _ _

theorem isIdentifier_of_mem_relativeSegments (h : c.name.isValid) {part : String}
    (hpart : part ∈ c.relativeSegments) : Text.isIdentifier part :=
  QualifiedName.isIdentifier_of_mem h (c.relativeSegments_suffix.subset hpart)

/-- Identifiers that are joined with underscores make an identifier. -/
theorem isIdentifier_intercalate {parts : List String} (hne : parts ≠ [])
    (h : ∀ part ∈ parts, Text.isIdentifier part) :
    Text.isIdentifier (nestedSeparator.intercalate parts) := by
  induction parts with
  | nil => exact absurd rfl hne
  | cons part rest ih =>
    obtain ⟨hpart, hrest⟩ := List.forall_mem_cons.1 h
    cases rest with
    | nil => rwa [String.intercalate_singleton]
    | cons next rest =>
      have hjoined := Text.all_continuesIdentifier (ih (List.cons_ne_nil _ _) hrest)
      rw [String.intercalate_cons_cons, String.append_assoc]
      refine Text.isIdentifier_append hpart fun c hc => ?_
      rw [String.toList_append, List.mem_append] at hc
      rcases hc with hc | hc
      · have hunderscore : c = '_' := by simpa [nestedSeparator] using hc
        rw [hunderscore]
        decide
      · exact hjoined c hc

/-- What is generated for a class with a valid name has an identifier for its name, whatever the
package is. -/
theorem isIdentifier_generatedName (h : c.name.isValid) {suffix : String}
    (hsuffix : Text.isIdentifier suffix) : Text.isIdentifier (c.generatedName suffix) :=
  Text.isIdentifier_append
    (isIdentifier_intercalate c.relativeSegments_ne_nil
      fun _ => isIdentifier_of_mem_relativeSegments h)
    (Text.all_continuesIdentifier hsuffix)

/-- Classes of one package and one generated name are one class, if no segment below the package has
an underscore. -/
theorem name_eq_of_generatedName (hc : c.IsPlaced) (hd : d.IsPlaced)
    (hcplain : ∀ part ∈ c.relativeSegments, '_' ∉ part.toList)
    (hdplain : ∀ part ∈ d.relativeSegments, '_' ∉ part.toList) {suffix : String}
    (hpackage : c.package = d.package)
    (hname : c.generatedName suffix = d.generatedName suffix) : c.name = d.name := by
  have hsegments : c.relativeSegments = d.relativeSegments := by
    have hjoined := (String.append_left_inj suffix).1 hname
    rw [← Text.segments_intercalate c.relativeSegments_ne_nil hcplain,
      ← Text.segments_intercalate d.relativeSegments_ne_nil hdplain]
    exact congrArg (Text.segments '_') hjoined
  have htext : c.name.segments = d.name.segments := by
    rw [hc.segments_eq, hd.segments_eq, hpackage, hsegments]
  have hcname := c.name.intercalate_segments
  rw [htext, d.name.intercalate_segments] at hcname
  exact congrArg QualifiedName.mk hcname.symm

end ClassDeclaration

end Wiring
