import Wiring.Kotlin.Keyword
import Wiring.QualifiedName

/-!
# Segments of names

Cutting a text at a separator and joining the pieces undo each other, so a qualified name is its
parent, a dot and its short name. Identifiers have none of the characters that set names apart.

* `Text.segments_intercalate`, `Text.intercalate_segments`;
* `Text.not_mem_of_isIdentifier`: what does not stand in identifiers;
* `QualifiedName.text_of_parent?_eq_some`, `QualifiedName.segments_of_parent?_eq_none`: names with a
  parent and without.
-/

namespace Wiring

namespace Text

theorem splitOn_eq (sep : Char) (cs : List Char) : splitOn sep cs = cs.splitOn sep := by
  have h := List.splitOn_intercalate sep (fun _ => not_mem_of_mem_splitOn) (splitOn_ne_nil sep cs)
  rwa [intercalate_splitOn, eq_comm] at h

/-- Pieces without the separator are cut where they were joined. -/
theorem segments_intercalate {sep : Char} {parts : List String} (hne : parts ≠ [])
    (h : ∀ part ∈ parts, sep ∉ part.toList) :
    segments sep ((String.ofList [sep]).intercalate parts) = parts := by
  have hmap : ∀ cs ∈ parts.map String.toList, sep ∉ cs := by
    intro cs hcs
    obtain ⟨part, hpart, rfl⟩ := List.mem_map.1 hcs
    exact h part hpart
  rw [segments, splitOn_eq, String.toList_intercalate, String.toList_ofList,
    List.splitOn_intercalate sep hmap (by simpa using hne), List.map_map]
  simp

theorem intercalate_segments (sep : Char) (s : String) :
    (String.ofList [sep]).intercalate (segments sep s) = s := by
  rw [← String.toList_inj, String.toList_intercalate, segments, List.map_map]
  have hid : String.toList ∘ String.ofList = id := by funext cs; simp
  rw [hid, List.map_id, String.toList_ofList, intercalate_splitOn]

theorem segments_ne_nil (sep : Char) (s : String) : segments sep s ≠ [] := by
  simpa [segments] using splitOn_ne_nil sep s.toList

/-- A text without the separator is not cut. -/
theorem segments_eq_singleton {sep : Char} {s : String} (h : sep ∉ s.toList) :
    segments sep s = [s] := by
  rw [segments, splitOn_eq, List.splitOn_eq_singleton h]
  simp

theorem not_mem_of_mem_segments {sep : Char} {s part : String} (h : part ∈ segments sep s) :
    sep ∉ part.toList := by
  obtain ⟨cs, hcs, rfl⟩ := List.mem_map.1 h
  rw [String.toList_ofList]
  exact not_mem_of_mem_splitOn hcs

theorem splitOn_append_cons (sep : Char) (cs ds : List Char) :
    splitOn sep (cs ++ sep :: ds) = splitOn sep cs ++ splitOn sep ds := by
  induction cs with
  | nil => simp [splitOn]
  | cons c cs ih =>
    rw [List.cons_append, splitOn, splitOn, ih]
    by_cases h : c = sep
    · rw [if_pos h, if_pos h, List.cons_append]
    · rw [if_neg h, if_neg h]
      cases hs : splitOn sep cs with
      | nil => exact absurd hs (splitOn_ne_nil sep cs)
      | cons piece rest => rfl

/-- A text with the separator in it has the segments before the separator and those after it. -/
theorem segments_append (sep : Char) (a b : String) {mark : String}
    (h : mark = String.ofList [sep]) :
    segments sep (a ++ mark ++ b) = segments sep a ++ segments sep b := by
  have hlist : (a ++ mark ++ b).toList = a.toList ++ sep :: b.toList := by simp [h]
  rw [segments, hlist, splitOn_append_cons, List.map_append, segments, segments]

/-! ## Identifiers -/

theorem continuesIdentifier_of_starts {c : Char} (h : startsIdentifier c) :
    continuesIdentifier c := by
  simp only [startsIdentifier, continuesIdentifier, isAlphanumeric, Bool.or_eq_true] at h ⊢
  exact h.imp_right .inl

theorem continuesIdentifier_of_isDigit {c : Char} (h : c.isDigit) : continuesIdentifier c := by
  have hdigits : ∀ n < 58, 48 ≤ n → continuesIdentifier (Char.ofNat n) := by decide
  simp only [Char.isDigit, Bool.and_eq_true, decide_eq_true_eq] at h
  have hc := hdigits c.toNat (Nat.lt_succ_of_le h.2) h.1
  rwa [Char.ofNat_toNat] at hc

theorem all_continuesIdentifier {s : String} (h : isIdentifier s) :
    ∀ c ∈ s.toList, continuesIdentifier c := by
  rw [isIdentifier] at h
  split at h
  · cases h
  · next c cs hs =>
    rw [Bool.and_eq_true, List.all_eq_true] at h
    rw [hs]
    intro d hd
    rcases List.mem_cons.1 hd with rfl | hd
    · exact continuesIdentifier_of_starts h.1
    · exact h.2 d hd

/-- An identifier has no characters but those that may stand in it. -/
theorem not_mem_of_isIdentifier {s : String} (h : isIdentifier s) {c : Char}
    (hc : continuesIdentifier c = false) : c ∉ s.toList := by
  intro hmem
  rw [all_continuesIdentifier h c hmem] at hc
  cases hc

theorem isIdentifier_append {a b : String} (ha : isIdentifier a)
    (hb : ∀ c ∈ b.toList, continuesIdentifier c) : isIdentifier (a ++ b) := by
  rw [isIdentifier, String.toList_append]
  rw [isIdentifier] at ha
  split at ha
  · cases ha
  · next c cs hcs =>
    rw [Bool.and_eq_true, List.all_eq_true] at ha
    rw [hcs, List.cons_append]
    change (startsIdentifier c && (cs ++ b.toList).all continuesIdentifier) = true
    rw [Bool.and_eq_true, List.all_eq_true, List.forall_mem_append]
    exact ⟨ha.1, ha.2, hb⟩

theorem ne_empty_of_isIdentifier {s : String} (h : isIdentifier s) : s ≠ "" := by
  rintro rfl
  simp [isIdentifier] at h

end Text

/-! ## Qualified names -/

namespace QualifiedName

theorem segments_ne_nil (n : QualifiedName) : n.segments ≠ [] := Text.segments_ne_nil '.' n.text

theorem intercalate_segments (n : QualifiedName) : ".".intercalate n.segments = n.text :=
  Text.intercalate_segments '.' n.text

theorem shortName_eq_getLast (n : QualifiedName) :
    n.shortName = n.segments.getLast n.segments_ne_nil := by
  rw [shortName, List.getLast?_eq_some_getLast n.segments_ne_nil, Option.getD_some]

theorem shortName_mem (n : QualifiedName) : n.shortName ∈ n.segments :=
  n.shortName_eq_getLast ▸ List.getLast_mem _

theorem isIdentifier_of_mem {n : QualifiedName} (h : n.isValid) {part : String}
    (hpart : part ∈ n.segments) : Text.isIdentifier part :=
  List.all_eq_true.1 h part hpart

theorem isIdentifier_shortName {n : QualifiedName} (h : n.isValid) :
    Text.isIdentifier n.shortName :=
  isIdentifier_of_mem h n.shortName_mem

/-- A name without a parent has one segment, which is its short name. -/
theorem segments_of_parent?_eq_none {n : QualifiedName} (h : n.parent? = none) :
    n.segments = [n.text] ∧ n.shortName = n.text := by
  have hone : ∃ part, n.segments = [part] := by
    rw [parent?] at h
    split at h
    · next hs => exact absurd hs n.segments_ne_nil
    · next part hs => exact ⟨part, hs⟩
    · cases h
  obtain ⟨part, hpart⟩ := hone
  have htext := n.intercalate_segments
  rw [hpart, String.intercalate_singleton] at htext
  rw [shortName, hpart, htext]
  exact ⟨rfl, rfl⟩

/-- A name with a parent is the parent, a dot and the short name. -/
theorem text_of_parent?_eq_some {n p : QualifiedName} (h : n.parent? = some p) :
    n.text = p.text ++ "." ++ n.shortName ∧ n.segments = p.segments ++ [n.shortName] := by
  have hsplit := List.dropLast_concat_getLast n.segments_ne_nil
  rw [← n.shortName_eq_getLast] at hsplit
  have hparent : n.segments.dropLast ≠ [] ∧ p.text = ".".intercalate n.segments.dropLast := by
    rw [parent?] at h
    split at h
    · cases h
    · cases h
    · next hnil hone =>
      cases h
      refine ⟨fun hdrop => ?_, rfl⟩
      rw [hdrop, List.nil_append] at hsplit
      exact hone _ hsplit.symm
  constructor
  · rw [← n.intercalate_segments, ← hsplit,
      String.intercalate_append_of_ne_nil hparent.1 (List.cons_ne_nil _ _), ← hparent.2,
      String.intercalate_singleton]
  · have hsegments : p.segments = n.segments.dropLast := by
      change Text.segments '.' p.text = _
      rw [hparent.2]
      exact Text.segments_intercalate hparent.1 fun part hpart =>
        Text.not_mem_of_mem_segments (List.dropLast_subset _ hpart)
    rw [hsegments, hsplit]

end QualifiedName

end Wiring
