import Mathlib.Data.List.Chain
import Wiring.Proofs.NameLookup
import Wiring.Proofs.StringLiterals
import Wiring.Proofs.WrittenValues

/-!
# Lines of texts

A text is cut into lines at its line ends. What is written from texts without line ends, each with
an end after it, has these lines. Blocks of lines, which have no blank line at their ends, may be
put together with one blank line between any two.

* `Piecewise`: what is done to the parts of a list; `Piecewise.intercalate`;
* `Text.lines`, `Text.IsOneLine`, `Text.startsWith`; `joinLines`, **`lines_joinLines`**;
* `IsBlock`: lines of which no two in a row are blank, and neither the first nor the last one;
  `IsBlock.append`, `IsBlock.intercalate`, `IsBlock.exists_end`;
* what is written in one line: `isOneLine_escape`, `isOneLine_packageText`,
  `isOneLine_qualifiedText`, `isOneLine_quote`, `isOneLine_toString`.
-/

namespace Wiring

/-! ## Parts of lists -/

/-- What is done to a list is done to its parts. -/
structure Piecewise {α β : Type} (f : List α → List β) : Prop where
  nil : f [] = []
  append : ∀ as bs, f (as ++ bs) = f as ++ f bs

namespace Piecewise

variable {α β : Type}

theorem map (f : α → β) : Piecewise (List.map f) := ⟨rfl, fun _ _ => List.map_append⟩

theorem filter (p : α → Bool) : Piecewise (List.filter p) := ⟨rfl, List.filter_append⟩

theorem filterMap (f : α → Option β) : Piecewise (List.filterMap f) :=
  ⟨rfl, fun _ _ => List.filterMap_append⟩

theorem flatMap (f : α → List β) : Piecewise (List.flatMap f) :=
  ⟨rfl, fun _ _ => List.flatMap_append⟩

variable {f : List α → List β}

theorem intercalate (hf : Piecewise f) (separator : List α) (parts : List (List α)) :
    f (separator.intercalate parts) = (f separator).intercalate (parts.map f) := by
  induction parts with
  | nil => exact hf.nil
  | cons part parts ih =>
    cases parts with
    | nil => simp
    | cons next parts =>
      rw [List.intercalate_cons_cons, hf.append, hf.append, ih, List.map_cons, List.map_cons,
        List.map_cons, List.intercalate_cons_cons]

/-- A separator of which nothing is left does not count. -/
theorem intercalate_of_nil (hf : Piecewise f) {separator : List α} (h : f separator = [])
    (parts : List (List α)) : f (separator.intercalate parts) = parts.flatMap f := by
  rw [hf.intercalate, h]
  induction parts with
  | nil => rfl
  | cons part parts ih =>
    cases parts with
    | nil => simp
    | cons next parts =>
      rw [List.map_cons] at ih
      rw [List.map_cons, List.map_cons, List.intercalate_cons_cons, ih, List.append_nil]
      exact List.flatMap_cons.symm

end Piecewise

theorem forall_mem_intercalate {α : Type} {p : α → Prop} {separator : List α}
    {parts : List (List α)} (hseparator : ∀ a ∈ separator, p a)
    (h : ∀ part ∈ parts, ∀ a ∈ part, p a) : ∀ a ∈ separator.intercalate parts, p a := by
  induction parts with
  | nil => exact List.forall_mem_nil _
  | cons part parts ih =>
    obtain ⟨hpart, hparts⟩ := List.forall_mem_cons.1 h
    cases parts with
    | nil => simpa using hpart
    | cons next parts =>
      rw [List.intercalate_cons_cons, List.forall_mem_append, List.forall_mem_append]
      exact ⟨⟨hpart, hseparator⟩, ih hparts⟩

/-! ## Texts of one line -/

namespace Text

/-- The lines of a text, without their ends. What follows the last line end is a line unless it is
empty. -/
def lines (text : String) : List String :=
  let pieces := segments '\n' text
  if pieces.getLast? = some "" then pieces.dropLast else pieces

/-- A text without line ends. -/
def IsOneLine (text : String) : Prop := '\n' ∉ text.toList

instance (text : String) : Decidable (IsOneLine text) := inferInstanceAs (Decidable (_ ∉ _))

/-- Whether a text starts with another one. -/
def startsWith (start text : String) : Bool := start.toList.isPrefixOf text.toList

/-- Whether nothing but white space stands in a line. -/
def isBlank (line : String) : Bool := line.toList.all Char.isWhitespace

variable {a b sep text part : String} {parts : List String}

theorem IsOneLine.append (ha : IsOneLine a) (hb : IsOneLine b) : IsOneLine (a ++ b) := by
  rw [IsOneLine, String.toList_append, List.mem_append, not_or]
  exact ⟨ha, hb⟩

theorem isOneLine_join (h : ∀ part ∈ parts, IsOneLine part) : IsOneLine (String.join parts) := by
  rw [IsOneLine, String.toList_join, List.mem_flatMap]
  rintro ⟨part, hpart, hmem⟩
  exact h part hpart hmem

theorem isOneLine_intercalate (hsep : IsOneLine sep) (h : ∀ part ∈ parts, IsOneLine part) :
    IsOneLine (sep.intercalate parts) := by
  have hne : ∀ {text : String}, IsOneLine text → ∀ c ∈ text.toList, c ≠ '\n' := by
    rintro text htext c hc rfl
    exact htext hc
  rw [IsOneLine, String.toList_intercalate]
  refine fun hmem => forall_mem_intercalate (hne hsep) (fun part hpart => ?_) '\n' hmem rfl
  obtain ⟨text, htext, rfl⟩ := List.mem_map.1 hpart
  exact hne (h text htext)

theorem sublist_of_mem_splitOn {mark : Char} {cs piece : List Char}
    (h : piece ∈ splitOn mark cs) : piece.Sublist cs := by
  induction cs generalizing piece with
  | nil => simp_all [splitOn]
  | cons c cs ih =>
    rw [splitOn] at h
    split at h
    · rcases List.mem_cons.1 h with rfl | h
      · exact List.nil_sublist _
      · exact (ih h).cons c
    · split at h
      · next hnil => exact absurd hnil (splitOn_ne_nil mark cs)
      · next first rest hsplit =>
        rw [hsplit] at ih
        rcases List.mem_cons.1 h with rfl | h
        · exact (ih List.mem_cons_self).cons_cons c
        · exact (ih (List.mem_cons_of_mem _ h)).cons c

theorem IsOneLine.segment {mark : Char} (h : IsOneLine text) (hpart : part ∈ segments mark text) :
    IsOneLine part := by
  obtain ⟨piece, hpiece, rfl⟩ := List.mem_map.1 hpart
  rw [IsOneLine, String.toList_ofList]
  exact fun hmem => h ((sublist_of_mem_splitOn hpiece).subset hmem)

end Text

namespace Kotlin

open Text

/-! ## Joined lines -/

/-- What is written part by part is written with a separator if its parts have one. -/
theorem write_intercalate {α : Type} {write : List α → String} (hnil : write [] = "")
    (happend : ∀ as bs, write (as ++ bs) = write as ++ write bs) (separator : List α)
    (parts : List (List α)) :
    write (separator.intercalate parts) = (write separator).intercalate (parts.map write) := by
  induction parts with
  | nil => exact hnil
  | cons part parts ih =>
    cases parts with
    | nil => simp
    | cons next parts =>
      rw [List.intercalate_cons_cons, happend, happend, ih, List.map_cons, List.map_cons,
        List.map_cons, String.intercalate_cons_cons]

/-- The text of lines, each with its end. -/
def joinLines (ls : List String) : String := String.join (ls.map endLine)

@[simp] theorem joinLines_nil : joinLines [] = "" := rfl

@[simp] theorem joinLines_cons (line : String) (ls : List String) :
    joinLines (line :: ls) = line ++ "\n" ++ joinLines ls := by
  rw [joinLines, List.map_cons, String.join_cons]
  rfl

@[simp] theorem joinLines_append (as bs : List String) :
    joinLines (as ++ bs) = joinLines as ++ joinLines bs := by
  rw [joinLines, List.map_append, String.join_append]
  rfl

/-- Blocks with an empty line between any two of them. -/
theorem joinLines_intercalate (blocks : List (List String)) :
    joinLines ([""].intercalate blocks) = "\n".intercalate (blocks.map joinLines) :=
  write_intercalate joinLines_nil joinLines_append [""] blocks

theorem segments_joinLines {ls : List String} (h : ∀ line ∈ ls, IsOneLine line) :
    segments '\n' (joinLines ls) = ls ++ [""] := by
  induction ls with
  | nil => rfl
  | cons line ls ih =>
    obtain ⟨hline, hls⟩ := List.forall_mem_cons.1 h
    rw [joinLines_cons, segments_append '\n' line _ rfl, segments_eq_singleton hline, ih hls]
    rfl

/-- **The lines of a text are those of which it was made**, if they have no line ends in them. -/
theorem lines_joinLines {ls : List String} (h : ∀ line ∈ ls, IsOneLine line) :
    lines (joinLines ls) = ls := by
  simp [lines, segments_joinLines h]

/-! ## Blocks of lines -/

/-- Of two lines, one is not blank. -/
def Spaced (a b : String) : Prop := isBlank a = false ∨ isBlank b = false

/-- Lines of which the first and the last one are not blank, and no two in a row. -/
structure IsBlock (ls : List String) : Prop where
  spaced : ls.IsChain Spaced
  head : ∃ line ∈ ls.head?, isBlank line = false
  last : ∃ line ∈ ls.getLast?, isBlank line = false

namespace IsBlock

variable {as bs : List String}

theorem of_forall (hne : as ≠ []) (h : ∀ line ∈ as, isBlank line = false) : IsBlock as where
  spaced := (List.pairwise_of_forall_mem_list fun a ha _ _ => Or.inl (h a ha)).isChain
  head := ⟨as.head hne, List.head_mem_head? hne, h _ (List.head_mem hne)⟩
  last := ⟨as.getLast hne, List.getLast_mem_getLast? hne, h _ (List.getLast_mem hne)⟩

theorem append (ha : IsBlock as) (hb : IsBlock bs) : IsBlock (as ++ bs) where
  spaced := by
    obtain ⟨last, hlast, hblank⟩ := ha.last
    refine List.isChain_append.2 ⟨ha.spaced, hb.spaced, fun line hline _ _ => .inl ?_⟩
    rwa [← Option.mem_unique hlast hline]
  head := by
    obtain ⟨line, hline, hblank⟩ := ha.head
    exact ⟨line, List.mem_head?_append_of_mem_head? hline, hblank⟩
  last := by
    obtain ⟨line, hline, hblank⟩ := hb.last
    exact ⟨line, List.mem_getLast?_append_of_mem_getLast? hline, hblank⟩

/-- An empty line may stand between two blocks. -/
theorem append_empty (ha : IsBlock as) (hb : IsBlock bs) : IsBlock (as ++ [""] ++ bs) where
  spaced := by
    obtain ⟨last, hlast, hlastBlank⟩ := ha.last
    obtain ⟨first, hfirst, hfirstBlank⟩ := hb.head
    refine List.isChain_append.2 ⟨List.isChain_append.2 ⟨ha.spaced, List.isChain_singleton _,
      fun line hline _ _ => .inl ?_⟩, hb.spaced, fun _ _ line hline => .inr ?_⟩
    · rwa [← Option.mem_unique hlast hline]
    · rwa [← Option.mem_unique hfirst hline]
  head := by
    obtain ⟨line, hline, hblank⟩ := ha.head
    rw [List.append_assoc]
    exact ⟨line, List.mem_head?_append_of_mem_head? hline, hblank⟩
  last := by
    obtain ⟨line, hline, hblank⟩ := hb.last
    exact ⟨line, List.mem_getLast?_append_of_mem_getLast? hline, hblank⟩

theorem intercalate {blocks : List (List String)} (hne : blocks ≠ [])
    (h : ∀ block ∈ blocks, IsBlock block) : IsBlock ([""].intercalate blocks) := by
  induction blocks with
  | nil => exact absurd rfl hne
  | cons block blocks ih =>
    obtain ⟨hblock, hblocks⟩ := List.forall_mem_cons.1 h
    cases blocks with
    | nil => simpa using hblock
    | cons next blocks =>
      rw [List.intercalate_cons_cons]
      exact hblock.append_empty (ih (List.cons_ne_nil _ _) hblocks)

/-- The text of a block ends in one line end. -/
theorem exists_end (ha : IsBlock as) (h : ∀ line ∈ as, IsOneLine line) :
    ∃ start c, (joinLines as).toList = start ++ [c, '\n'] ∧ c ≠ '\n' := by
  obtain ⟨line, hline, hblank⟩ := ha.last
  obtain ⟨before, rfl⟩ := List.getLast?_eq_some_iff.1 hline
  have hne : line.toList ≠ [] := by
    intro hnil
    simp [isBlank, hnil] at hblank
  refine ⟨(joinLines before).toList ++ line.toList.dropLast, line.toList.getLast hne, ?_, ?_⟩
  · have hchars := List.append_cons line.toList.dropLast (line.toList.getLast hne) ['\n']
    rw [List.dropLast_concat_getLast] at hchars
    simp [hchars]
  · intro heq
    exact h line (by simp) (heq ▸ List.getLast_mem hne)

end IsBlock

/-! ## What is written in one line -/

theorem isOneLine_escape {name : String} (h : IsOneLine name) : IsOneLine (escape name) := by
  intro hmem
  rcases toList_escape hmem with hc | hc
  · cases hc
  · exact h hc

theorem isOneLine_packageText {package : String} (h : IsOneLine package) :
    IsOneLine (packageText package) := by
  refine isOneLine_intercalate (by decide) fun part hpart => ?_
  obtain ⟨segment, hsegment, rfl⟩ := List.mem_map.1 hpart
  exact isOneLine_escape (h.segment (List.mem_of_mem_filter hsegment))

theorem isOneLine_qualifiedText {n : QualifiedName} (h : IsOneLine n.text) :
    IsOneLine (qualifiedText n) := by
  refine isOneLine_intercalate (by decide) fun part hpart => ?_
  obtain ⟨segment, hsegment, rfl⟩ := List.mem_map.1 hpart
  exact isOneLine_escape (h.segment hsegment)

/-- A class is written in one line, short or in full. -/
theorem NameTable.isOneLine_text (package : String) (names : List QualifiedName) {n : QualifiedName}
    (h : IsOneLine n.text) : IsOneLine ((ofNames package names).text n) := by
  by_cases hfirst : IsFirst names n
  · rw [text_of_isFirst hfirst]
    exact isOneLine_escape (h.segment n.shortName_mem)
  · rw [text_of_not_isFirst hfirst]
    exact isOneLine_qualifiedText h

/-- The line ends of a text are written with backslashes. -/
theorem isOneLine_quote (s : String) : IsOneLine (quote s) := by
  have hchar : ∀ c, '\n' ∉ escapedChar c := by
    intro c hmem
    rcases escapedChar_cases c with ⟨sign, hwritten, hsign⟩ | ⟨hwritten, hplain, -⟩
    · rw [hwritten] at hmem
      obtain rfl : '\n' = sign := by simpa using hmem
      cases hsign
    · rw [hwritten, List.mem_singleton] at hmem
      rw [← hmem] at hplain
      cases hplain
  simp [IsOneLine, quote, hchar]

theorem isOneLine_toString (value : Int) : IsOneLine (toString value) := by
  have hrepr : ∀ n : Nat, '\n' ∉ n.repr.toList := fun n hmem => by
    have hdigit := isDigit_of_mem_repr hmem
    cases hdigit
  cases value with
  | ofNat n => exact hrepr n
  | negSucc n =>
    rw [IsOneLine, toList_toString_negSucc, List.mem_cons, not_or]
    exact ⟨by decide, hrepr _⟩

end Kotlin

end Wiring
