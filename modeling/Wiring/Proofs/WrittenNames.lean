import Wiring.Proofs.Determined
import Wiring.Proofs.NameLookup
import Wiring.Proofs.StringLiterals

/-!
# Written names

The classes that a file refers to are written with words of letters, numbers, dots and back-ticks,
and no two of them with the same word. What a string literal stands for is determined by its text.

* `isNameChar`, `IsWord`: words; `isWord_escape`, `isWord_qualifiedText`;
* `NameTable.Separates`: a table of names gives each class its own word;
  **`NameTable.separates_ofNames`**;
* **`quote_append_inj`**: string literals.
-/

namespace Wiring.Kotlin

open Text

/-! ## Words -/

/-- Whether a character may stand in the text of a class. -/
def isNameChar (c : Char) : Bool := continuesIdentifier c || c = '.' || c = '`'

/-- A text of such characters that is not empty. -/
structure IsWord (s : String) : Prop where
  ne_nil : s.toList ≠ []
  chars : ∀ c ∈ s.toList, isNameChar c

theorem isNameChar_of_continues {c : Char} (h : continuesIdentifier c) : isNameChar c := by
  simp [isNameChar, h]

theorem isWord_of_isIdentifier {s : String} (h : isIdentifier s) : IsWord s where
  ne_nil hnil := ne_empty_of_isIdentifier h (String.toList_eq_nil_iff.1 hnil)
  chars _ hc := isNameChar_of_continues (all_continuesIdentifier h _ hc)

theorem IsWord.append {s t : String} (hs : IsWord s) (ht : ∀ c ∈ t.toList, isNameChar c) :
    IsWord (s ++ t) := by
  refine ⟨by simp [hs.ne_nil], ?_⟩
  rw [String.toList_append, List.forall_mem_append]
  exact ⟨hs.chars, ht⟩

theorem IsWord.append_ne_cons {w : String} (h : IsWord w) {c : Char} (hc : isNameChar c = false)
    (r s : List Char) : w.toList ++ r ≠ c :: s := by
  intro heq
  cases hw : w.toList with
  | nil => exact h.ne_nil hw
  | cons d ds =>
    rw [hw, List.cons_append, List.cons.injEq] at heq
    have hd := h.chars d (hw ▸ List.mem_cons_self)
    rw [heq.1, hc] at hd
    cases hd

theorem IsWord.head?_ne {w : String} (h : IsWord w) {c : Char} (hc : isNameChar c = false)
    (r : List Char) : (w.toList ++ r).head? ≠ some c := by
  intro hhead
  obtain ⟨s, hs⟩ := List.head?_eq_some_iff.1 hhead
  exact h.append_ne_cons hc r s hs

theorem isWord_escape {s : String} (h : isIdentifier s) : IsWord (escape s) := by
  have hword := isWord_of_isIdentifier h
  refine ⟨fun hnil => ?_, fun c hc => ?_⟩
  · rw [escape] at hnil
    split at hnil
    · simp at hnil
    · exact hword.ne_nil hnil
  · rcases toList_escape hc with rfl | hc
    · decide
    · exact hword.chars c hc

theorem escape_inj {s t : String} (hs : isIdentifier s) (ht : isIdentifier t)
    (h : escape s = escape t) : s = t := by
  rw [← unescape_escape_of_isIdentifier hs, h, unescape_escape_of_isIdentifier ht]

theorem isWord_intercalate {first : String} {rest : List String}
    (h : ∀ part ∈ first :: rest, IsWord part) : IsWord (".".intercalate (first :: rest)) := by
  obtain ⟨hfirst, hrest⟩ := List.forall_mem_cons.1 h
  have htext : (".".intercalate (first :: rest)).toList =
      first.toList ++ rest.flatMap fun part => '.' :: part.toList := by
    rw [String.toList_intercalate, List.map_cons, intercalate_cons, List.flatMap_map]
    rfl
  refine ⟨by simp [htext, hfirst.ne_nil], ?_⟩
  rw [htext, List.forall_mem_append]
  refine ⟨hfirst.chars, fun c hc => ?_⟩
  obtain ⟨part, hpart, hmem⟩ := List.mem_flatMap.1 hc
  rcases List.mem_cons.1 hmem with rfl | hmem
  · decide
  · exact (hrest part hpart).chars c hmem

theorem isWord_qualifiedText {n : QualifiedName} (h : n.isValid) : IsWord (qualifiedText n) := by
  have hparts : ∀ part ∈ n.segments.map escape, IsWord part := by
    intro part hpart
    obtain ⟨segment, hsegment, rfl⟩ := List.mem_map.1 hpart
    exact isWord_escape (QualifiedName.isIdentifier_of_mem h hsegment)
  rw [qualifiedText]
  cases hsegments : n.segments.map escape with
  | nil => exact absurd (List.map_eq_nil_iff.1 hsegments) n.segments_ne_nil
  | cons first rest => exact isWord_intercalate (hsegments ▸ hparts)

/-! ## Tables of names -/

/-- The classes of a list are written with words, each with its own. -/
structure NameTable.Separates (table : NameTable) (names : List QualifiedName) : Prop where
  isWord : ∀ n ∈ names, IsWord (table.text n)
  injective : ∀ m ∈ names, ∀ n ∈ names, table.text m = table.text n → m = n

/-- The class that a text begins with ends where the first other character stands. -/
theorem NameTable.Separates.append_inj {table : NameTable} {names : List QualifiedName}
    (h : table.Separates names) {m n : QualifiedName} (hm : m ∈ names) (hn : n ∈ names)
    {r s : List Char} (hr : Avoids isNameChar r) (hs : Avoids isNameChar s)
    (heq : (table.text m).toList ++ r = (table.text n).toList ++ s) : m = n ∧ r = s := by
  obtain ⟨htext, hrest⟩ := word_append_inj (h.isWord m hm).chars (h.isWord n hn).chars hr hs heq
  exact ⟨h.injective m hm n hn (String.toList_inj.1 htext), hrest⟩

section

variable {package : String} {names : List QualifiedName}

theorem qualifiedText_inj {m n : QualifiedName} (hm : m.isValid) (hn : n.isValid)
    (h : qualifiedText m = qualifiedText n) : m = n := by
  have hsegments : m.segments = n.segments := by
    rw [← map_unescape_qualifiedText hm, h, map_unescape_qualifiedText hn]
  have htext : m.text = n.text := by
    rw [← m.intercalate_segments, hsegments, n.intercalate_segments]
  cases m
  cases n
  exact congrArg QualifiedName.mk htext

/-- A name in a package, written in full, has a dot. -/
theorem dot_mem_qualifiedText {n : QualifiedName} (h : 2 ≤ n.segments.length) :
    '.' ∈ (qualifiedText n).toList := by
  rw [qualifiedText]
  cases hsegments : n.segments with
  | nil => simp [hsegments] at h
  | cons first rest =>
    cases rest with
    | nil => simp [hsegments] at h
    | cons second rest => simp

/-- **A table gives each class its own word**, if the classes have valid names in packages: one that
is written short is the first with its short name, and has no dot. -/
theorem NameTable.separates_ofNames (hvalid : ∀ n ∈ names, n.isValid)
    (hpackages : ∀ n ∈ names, 2 ≤ n.segments.length) :
    (NameTable.ofNames package names).Separates names where
  isWord n hn := by
    by_cases hfirst : IsFirst names n
    · rw [text_of_isFirst hfirst]
      exact isWord_escape (QualifiedName.isIdentifier_shortName (hvalid n hn))
    · rw [text_of_not_isFirst hfirst]
      exact isWord_qualifiedText (hvalid n hn)
  injective m hm n hn h := by
    -- A short text has no dot and a whole name has one, so the two are never the same.
    have hmixed : ∀ m ∈ names, ∀ n ∈ names, escape m.shortName ≠ qualifiedText n := by
      intro m hm n hn heq
      refine dot_not_mem_escape (QualifiedName.isIdentifier_shortName (hvalid m hm)) ?_
      rw [heq]
      exact dot_mem_qualifiedText (hpackages n hn)
    by_cases hmfirst : IsFirst names m <;> by_cases hnfirst : IsFirst names n
    · rw [text_of_isFirst hmfirst, text_of_isFirst hnfirst] at h
      exact hmfirst.eq_of_shortName hnfirst
        (escape_inj (QualifiedName.isIdentifier_shortName (hvalid m hm))
          (QualifiedName.isIdentifier_shortName (hvalid n hn)) h)
    · rw [text_of_isFirst hmfirst, text_of_not_isFirst hnfirst] at h
      exact absurd h (hmixed m hm n hn)
    · rw [text_of_not_isFirst hmfirst, text_of_isFirst hnfirst] at h
      exact absurd h.symm (hmixed n hn m hm)
    · rw [text_of_not_isFirst hmfirst, text_of_not_isFirst hnfirst] at h
      exact qualifiedText_inj (hvalid m hm) (hvalid n hn) h

end

/-! ## String literals -/

/-- **The text of a string literal ends at its closing quote, and tells what it stands for**: it can
be read. -/
theorem quote_append_inj {s t : String} {r r' : List Char}
    (h : (quote s).toList ++ r = (quote t).toList ++ r') : s = t ∧ r = r' := by
  rw [toList_quote_append, toList_quote_append, List.cons.injEq] at h
  have hread := congrArg scanContent? h.2
  rw [scanContent?_flatMap, scanContent?_flatMap, Option.some.injEq, Prod.mk.injEq] at hread
  exact ⟨String.toList_inj.1 hread.1, hread.2⟩

end Wiring.Kotlin
