import Mathlib.Data.List.Forall2
import Mathlib.Data.List.TakeWhile
import Mathlib.Tactic.SplitIfs
import Wiring.Json.Printer
import Wiring.Json.Token
import Wiring.Proofs.DecimalDigits

/-!
# The tokens of a printed value

The scan of the text that is written for a value gives the tokens of the value.

* `Json.Plain`: values as they are written, with proper texts and whole numbers only;
* `Json.tokens`: the tokens of a value;
* `Scans`: texts and the tokens they are scanned into, with `Scans.join` for punctuation;
* `scans_printText`, `scans_print_ofInt`: quoted texts and numbers;
* **`scans_print`**, `tokens?_print`: whole values.
-/

namespace Wiring.Json

/-- The values that are written: texts and keys are proper texts, and numbers are whole. -/
inductive Plain : Json → Prop where
  | null : Plain .null
  | bool (value : Bool) : Plain (.bool value)
  | int (value : Int) : Plain (.int value)
  | text (value : String) : Plain (.text value)
  | array (items : List Json) (h : ∀ item ∈ items, Plain item) : Plain (.array items)
  | object (fields : List (String × Json)) (h : ∀ field ∈ fields, Plain field.2) :
    Plain (.ofFields fields)

/-! ## Tokens of values -/

mutual

/-- The tokens of a value. -/
def tokens : Json → List Token
  | .null => [.null]
  | .bool value => [.bool value]
  | .number value => [.number value]
  | .string text => [.string text]
  | .array items => .openArray :: ([.comma].intercalate (itemTokens items) ++ [.closeArray])
  | .object members =>
    .openObject :: ([.comma].intercalate (memberTokens members) ++ [.closeObject])
  termination_by structural value => value

/-- The tokens of each item of an array. -/
def itemTokens : List Json → List (List Token)
  | [] => []
  | item :: items => item.tokens :: itemTokens items
  termination_by structural items => items

/-- The tokens of each member of an object. -/
def memberTokens : List (Quoted × Json) → List (List Token)
  | [] => []
  | (key, value) :: members => (.string key :: .colon :: value.tokens) :: memberTokens members
  termination_by structural members => members

end

theorem itemTokens_eq (items : List Json) : itemTokens items = items.map tokens := by
  induction items with
  | nil => rfl
  | cons item items ih => rw [itemTokens, ih, List.map_cons]

theorem memberTokens_eq (members : List (Quoted × Json)) :
    memberTokens members = members.map fun m => .string m.1 :: .colon :: m.2.tokens := by
  induction members with
  | nil => rfl
  | cons member members ih => rw [memberTokens, ih, List.map_cons]

theorem printItems_eq (items : List Json) : printItems items = items.map print := by
  induction items with
  | nil => rfl
  | cons item items ih => rw [printItems, ih, List.map_cons]

theorem printMembers_eq (members : List (Quoted × Json)) :
    printMembers members = members.map fun m => printQuoted m.1 ++ ":" ++ m.2.print := by
  induction members with
  | nil => rfl
  | cons member members ih => rw [printMembers, ih, List.map_cons]

/-! ## Scanned texts -/

/-- A text is scanned into tokens: from between tokens, the scan comes to their end, where the last
of them may still be open. -/
def Scans (text : List Char) (tokens : List Token) : Prop :=
  ∀ done, ∃ scan, text.foldlM Scan.step ⟨.between, done⟩ = some scan ∧
    scan.flush = some (tokens.reverse ++ done)

/-- A character that is a token by itself. -/
structure Punctuation (c : Char) (token : Token) : Prop where
  start : ∀ done, Scan.start done c = some ⟨.between, token :: done⟩
  notLower : c.isLower = false
  notNumeral : Scan.inNumeral c = false

theorem punctuation_comma : Punctuation ',' .comma := ⟨fun _ => rfl, rfl, rfl⟩

theorem punctuation_colon : Punctuation ':' .colon := ⟨fun _ => rfl, rfl, rfl⟩

theorem punctuation_openArray : Punctuation '[' .openArray := ⟨fun _ => rfl, rfl, rfl⟩

theorem punctuation_closeArray : Punctuation ']' .closeArray := ⟨fun _ => rfl, rfl, rfl⟩

theorem punctuation_openObject : Punctuation '\x7b' .openObject := ⟨fun _ => rfl, rfl, rfl⟩

theorem punctuation_closeObject : Punctuation '\x7d' .closeObject := ⟨fun _ => rfl, rfl, rfl⟩

/-- Punctuation ends a word or a number that is still open. -/
theorem Punctuation.step {c : Char} {token : Token} (h : Punctuation c token) {scan : Scan}
    {done : List Token} (hflush : scan.flush = some done) :
    scan.step c = some ⟨.between, token :: done⟩ := by
  obtain ⟨mode, seen⟩ := scan
  -- Within a text in quotes nothing can be flushed.
  cases mode with
  | between =>
    cases hflush
    exact h.start seen
  | word read => simp [Scan.step, h.notLower, hflush, h.start]
  | numeral read => simp [Scan.step, h.notNumeral, hflush, h.start]
  | quoted read => cases hflush
  | escape read => cases hflush
  | code read left value => cases hflush

theorem Scans.nil : Scans [] [] := fun done => ⟨⟨.between, done⟩, rfl, rfl⟩

/-- Two texts with punctuation between them. -/
theorem Scans.join {a b : List Char} {s t : List Token} (ha : Scans a s) {c : Char} {token : Token}
    (hc : Punctuation c token) (hb : Scans b t) : Scans (a ++ c :: b) (s ++ token :: t) := by
  intro done
  obtain ⟨scan, hscan, hflush⟩ := ha done
  obtain ⟨last, hlast, hend⟩ := hb (token :: (s.reverse ++ done))
  refine ⟨last, ?_, by simpa using hend⟩
  rw [List.foldlM_append, hscan]
  change (scan.step c).bind (fun scan => b.foldlM Scan.step scan) = some last
  rw [hc.step hflush]
  exact hlast

/-- Texts with commas between them. -/
theorem Scans.intercalate {texts : List (List Char)} {tokens : List (List Token)}
    (h : List.Forall₂ Scans texts tokens) :
    Scans ([','].intercalate texts) ([.comma].intercalate tokens) := by
  induction h with
  | nil => exact .nil
  | cons hfirst hrest ih =>
    cases hrest with
    | nil => simpa using hfirst
    | cons _ _ => simpa using hfirst.join punctuation_comma ih

/-- A text in brackets. -/
theorem Scans.enclose {text : List Char} {tokens : List Token} (h : Scans text tokens) {c d : Char}
    {first last : Token} (hc : Punctuation c first) (hd : Punctuation d last) :
    Scans (c :: (text ++ [d])) (first :: (tokens ++ [last])) :=
  Scans.nil.join hc (h.join hd .nil)

/-! ## Quoted texts -/

theorem hexValue?_hexDigit : ∀ n < 16, hexValue? (hexDigit n) = some n := by decide

theorem ofCode_of_lt {c : Char} (h : c.toNat < 0x20) : CodeUnit.ofCode c.toNat = .char c := by
  rw [CodeUnit.ofCode, if_neg (by omega), Char.ofNat_toNat]

/-- What is written for a character is read as the character. -/
theorem foldlM_escaped (c : Char) (read : List CodeUnit) (done : List Token) :
    (escaped c).foldlM Scan.step ⟨.quoted read, done⟩ = some ⟨.quoted (.char c :: read), done⟩ := by
  rw [escaped]
  split_ifs with h1 h2 h3 h4 h5 h6 h7 h8
  · subst h1; rfl
  · subst h2; rfl
  · subst h3; rfl
  · subst h4; rfl
  · subst h5; rfl
  · subst h6; rfl
  · subst h7; rfl
  · have hhigh := hexValue?_hexDigit (c.toNat / 16) (by omega)
    have hlow := hexValue?_hexDigit (c.toNat % 16) (by omega)
    have hzero : hexValue? '0' = some 0 := rfl
    have hcode : 16 * (c.toNat / 16) + c.toNat % 16 = c.toNat := Nat.div_add_mod c.toNat 16
    simp [Scan.step, hzero, hhigh, hlow, hcode, ofCode_of_lt h8]
  · simp [Scan.step, h1, h2, h8]

theorem foldlM_flatMap_escaped (cs : List Char) (read : List CodeUnit) (done : List Token) :
    (cs.flatMap escaped).foldlM Scan.step ⟨.quoted read, done⟩ =
      some ⟨.quoted ((cs.map CodeUnit.char).reverse ++ read), done⟩ := by
  induction cs generalizing read with
  | nil => rfl
  | cons c cs ih =>
    rw [List.flatMap_cons, List.foldlM_append, foldlM_escaped]
    change (cs.flatMap escaped).foldlM Scan.step ⟨.quoted (.char c :: read), done⟩ = _
    rw [ih]
    simp

theorem joinSurrogates_map_char (cs : List Char) :
    joinSurrogates (cs.map CodeUnit.char) = some cs := by
  induction cs with
  | nil => rfl
  | cons c cs ih => rw [List.map_cons, joinSurrogates, ih, Option.map_some]

theorem scans_printText (s : String) : Scans (printText s).toList [.string (some s)] := by
  intro done
  refine ⟨⟨.between, .string (some s) :: done⟩, ?_, rfl⟩
  have htext : (printText s).toList = '"' :: (s.toList.flatMap escaped ++ ['"']) := by
    simp [printText]
  rw [htext, List.foldlM_cons]
  change (s.toList.flatMap escaped ++ ['"']).foldlM Scan.step ⟨.quoted [], done⟩ = _
  rw [List.foldlM_append, foldlM_flatMap_escaped]
  simp [Scan.step, joinSurrogates_map_char]

/-! ## Numbers -/

theorem not_isLower_of_isDigit {c : Char} (h : c.isDigit) : c.isLower = false := by
  rw [Char.isDigit, Bool.and_eq_true, decide_eq_true_eq, decide_eq_true_eq] at h
  change (decide (c.val ≥ 'a'.val) && decide (c.val ≤ 'z'.val)) = false
  rw [Bool.and_eq_false_iff, decide_eq_false_iff_not]
  left
  have hle := UInt32.le_iff_toNat_le.1 h.2
  rw [ge_iff_le, UInt32.le_iff_toNat_le]
  exact fun hlower => absurd (hlower.trans hle) (by decide)

/-- A number starts with a digit or a minus sign. -/
theorem start_numeral {c : Char} (h : c = '-' ∨ c.isDigit) (done : List Token) :
    Scan.start done c = some ⟨.numeral [c], done⟩ := by
  rcases h with rfl | h
  · rfl
  · unfold Scan.start
    split
    all_goals first | (exact absurd h (by decide)) | skip
    rw [not_isLower_of_isDigit h]
    simp [h]

theorem foldlM_numeral (cs read : List Char) (done : List Token)
    (h : ∀ c ∈ cs, c.isDigit) :
    cs.foldlM Scan.step ⟨.numeral read, done⟩ = some ⟨.numeral (cs.reverse ++ read), done⟩ := by
  induction cs generalizing read with
  | nil => rfl
  | cons c cs ih =>
    obtain ⟨hc, hcs⟩ := List.forall_mem_cons.1 h
    have hnumeral : Scan.inNumeral c := by simp [Scan.inNumeral, hc]
    have hstep : Scan.step ⟨.numeral read, done⟩ c = some ⟨.numeral (c :: read), done⟩ :=
      if_pos hnumeral
    rw [List.foldlM_cons, hstep]
    change cs.foldlM Scan.step ⟨.numeral (c :: read), done⟩ = _
    rw [ih (c :: read) hcs]
    simp

theorem unsignedNumeral?_repr (negative : Bool) (n : Nat) :
    unsignedNumeral? negative n.repr.toList = some ⟨negative, n, [], none⟩ := by
  have hdigits : ∀ c ∈ n.repr.toList, c.isDigit := fun c => isDigit_of_mem_repr
  have hwhole : n.repr.toList.takeWhile Char.isDigit = n.repr.toList :=
    List.takeWhile_eq_self_iff.2 hdigits
  have hrest : n.repr.toList.dropWhile Char.isDigit = [] := List.dropWhile_eq_nil_iff.2 hdigits
  have hzero : n.repr.toList.head? = some '0' → n.repr.toList = ['0'] := by
    intro h
    cases n with
    | zero => exact repr_zero
    | succ n => exact absurd h (head?_repr (Nat.succ_pos n))
  have hne := repr_ne_nil n
  have hvalue := digitsValue_repr n
  -- What is read depends on these facts about the digits only.
  generalize n.repr.toList = cs at hwhole hrest hzero hne hvalue ⊢
  have hbad : (cs.isEmpty || (cs.head? = some '0' && cs ≠ ['0'])) = false := by
    rw [Bool.or_eq_false_iff, List.isEmpty_eq_false_iff]
    refine ⟨hne, ?_⟩
    by_cases h : cs.head? = some '0'
    · simp [hzero h]
    · simp [h]
  unfold unsignedNumeral?
  simp only [hwhole, hrest, hbad, hvalue, numeralExponent?]
  rfl

theorem toList_print_ofInt (n : Int) :
    (Numeral.ofInt n).print.toList = (if n < 0 then ['-'] else []) ++ n.natAbs.repr.toList := by
  by_cases h : n < 0 <;> simp [Numeral.print, Numeral.ofInt, h]

/-- What is written for a whole number is read as the number. -/
theorem numeral?_print_ofInt (n : Int) :
    numeral? (Numeral.ofInt n).print.toList = some (.ofInt n) := by
  have hsign : ∀ cs, n.natAbs.repr.toList ≠ '-' :: cs := fun _ => repr_ne_cons rfl
  rw [toList_print_ofInt, Numeral.ofInt]
  by_cases h : n < 0
  · rw [if_pos h, List.singleton_append, numeral?, unsignedNumeral?_repr, decide_eq_true h]
  · rw [if_neg h, List.nil_append, numeral?.eq_2 _ hsign, unsignedNumeral?_repr,
      decide_eq_false h]

theorem exists_eq_cons_print_ofInt (n : Int) :
    ∃ c cs, (Numeral.ofInt n).print.toList = c :: cs ∧ (c = '-' ∨ c.isDigit) ∧
      ∀ d ∈ cs, d.isDigit := by
  have hdigits : ∀ d ∈ n.natAbs.repr.toList, d.isDigit := fun d => isDigit_of_mem_repr
  have hne := repr_ne_nil n.natAbs
  rw [toList_print_ofInt]
  generalize n.natAbs.repr.toList = ds at hdigits hne ⊢
  by_cases h : n < 0
  · exact ⟨'-', ds, by rw [if_pos h, List.singleton_append], .inl rfl, hdigits⟩
  · cases ds with
    | nil => exact absurd rfl hne
    | cons d ds =>
      obtain ⟨hd, hds⟩ := List.forall_mem_cons.1 hdigits
      exact ⟨d, ds, by rw [if_neg h, List.nil_append], .inr hd, hds⟩

theorem scans_print_ofInt (n : Int) :
    Scans (Numeral.ofInt n).print.toList [.number (.ofInt n)] := by
  intro done
  have hread := numeral?_print_ofInt n
  obtain ⟨c, cs, htext, hc, hcs⟩ := exists_eq_cons_print_ofInt n
  rw [htext] at hread ⊢
  -- The number is still open at the end of its text and is read when the scan is flushed.
  refine ⟨⟨.numeral (cs.reverse ++ [c]), done⟩, ?_, ?_⟩
  · rw [List.foldlM_cons]
    change (Scan.start done c).bind (fun scan => cs.foldlM Scan.step scan) = _
    rw [start_numeral hc]
    exact foldlM_numeral cs [c] done hcs
  · simp [Scan.flush, hread]

/-! ## Values -/

theorem scans_null : Scans ['n', 'u', 'l', 'l'] [.null] := fun _ => ⟨_, rfl, rfl⟩

theorem scans_true : Scans ['t', 'r', 'u', 'e'] [.bool true] := fun _ => ⟨_, rfl, rfl⟩

theorem scans_false : Scans ['f', 'a', 'l', 's', 'e'] [.bool false] := fun _ => ⟨_, rfl, rfl⟩

theorem Scans.map {α : Type} {texts : α → List Char} {tokens : α → List Token} {list : List α}
    (h : ∀ a ∈ list, Scans (texts a) (tokens a)) :
    Scans ([','].intercalate (list.map texts)) ([.comma].intercalate (list.map tokens)) := by
  refine Scans.intercalate ?_
  rw [List.forall₂_map_left_iff, List.forall₂_map_right_iff, List.forall₂_same]
  exact h

/-- **The text of a value is scanned into the tokens of the value.** -/
theorem scans_print {value : Json} (h : Plain value) : Scans value.print.toList value.tokens := by
  induction h with
  | null => exact scans_null
  | bool value =>
    cases value with
    | true => exact scans_true
    | false => exact scans_false
  | int n => exact scans_print_ofInt n
  | text s => exact scans_printText s
  | array items _ ih =>
    have htext : (Json.array items).print.toList =
        '[' :: ([','].intercalate (items.map fun item => item.print.toList) ++ [']']) := by
      simp [print, printItems_eq, String.toList_intercalate, Function.comp_def]
    rw [htext, tokens, itemTokens_eq]
    exact (Scans.map ih).enclose punctuation_openArray punctuation_closeArray
  | object fields _ ih =>
    have htext : (Json.ofFields fields).print.toList =
        '\x7b' :: ([','].intercalate (fields.map fun field =>
          (printText field.1).toList ++ ':' :: field.2.print.toList) ++ ['\x7d']) := by
      simp [print, ofFields, printMembers_eq, String.toList_intercalate, Function.comp_def,
        printQuoted]
    rw [htext, ofFields, tokens, memberTokens_eq, List.map_map]
    refine (Scans.map fun field hfield => ?_).enclose punctuation_openObject
      punctuation_closeObject
    exact (scans_printText field.1).join punctuation_colon (ih field hfield)

/-- A value is written as its tokens. -/
theorem tokens?_print {value : Json} (h : Plain value) :
    tokens? value.print.toList = some value.tokens := by
  obtain ⟨scan, hscan, hflush⟩ := scans_print h []
  rw [tokens?, hscan, Option.bind_some, hflush]
  simp

end Wiring.Json
