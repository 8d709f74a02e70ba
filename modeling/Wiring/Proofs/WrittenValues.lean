import Wiring.Proofs.DecimalDigits
import Wiring.Proofs.WrittenTypes

/-!
# Written values

The value of an annotation's argument is determined by its text: by its first character, else by the
first word and what follows it, a value shows of which kind it is, and each kind has a form of its
own.

* `AnnotationValue.EntriesNamed`: entries of enumerations have identifiers as names;
* `Code.valueChars`: the characters of a value, kind by kind;
* `readKind_valueChars`, `valueChars_form`: a text shows the kind of its value;
* **`determined_valueChars`**: values.
-/

namespace Wiring

/-- All entries of enumerations in a value have identifiers as names. -/
inductive AnnotationValue.EntriesNamed : AnnotationValue → Prop
  | classLiteral (name : QualifiedName) : EntriesNamed (.classLiteral name)
  | string (text : String) : EntriesNamed (.string text)
  | int (value : Int) : EntriesNamed (.int value)
  | bool (value : Bool) : EntriesNamed (.bool value)
  | enumEntry (enumClass : QualifiedName) (entry : String) (h : Text.isIdentifier entry) :
    EntriesNamed (.enumEntry enumClass entry)
  | array (items : List AnnotationValue) (h : ∀ item ∈ items, EntriesNamed item) :
    EntriesNamed (.array items)

namespace Kotlin

open Text

variable {names : NameTable} {known : List QualifiedName}

/-! ## The text of code -/

namespace Code

variable (names) in
/-- The characters of a fragment of code. -/
def chars (code : Code) : List Char := (code.render names).toList

theorem chars_append (code other : Code) :
    chars names (code ++ other) = chars names code ++ chars names other := by
  simp [chars, render, String.toList_join]

theorem chars_literal (text : String) : chars names (literal text) = text.toList := by
  simp [chars, render, literal, CodePart.render]

theorem chars_reference (name : QualifiedName) (text : String) :
    chars names [.reference name, .literal text] = (names.text name).toList ++ text.toList := by
  simp [chars, render, CodePart.render]

variable (names) in
/-- The characters of a value. -/
def valueChars (value : AnnotationValue) : List Char := chars names (ofValue value)

theorem chars_ofFurther (items : List AnnotationValue) :
    chars names (ofFurther items) =
      items.flatMap fun item => [',', ' '] ++ valueChars names item := by
  induction items with
  | nil => rfl
  | cons item items ih =>
    rw [ofFurther, chars_append, chars_append, ih, chars_literal, List.flatMap_cons]
    rfl

theorem chars_ofItems (items : List AnnotationValue) :
    chars names (ofItems items) = [',', ' '].intercalate (items.map (valueChars names)) := by
  cases items with
  | nil => rfl
  | cons item items =>
    rw [ofItems, chars_append, chars_ofFurther, intercalate_map_cons]
    rfl

theorem valueChars_array (items : List AnnotationValue) :
    valueChars names (.array items) =
      '[' :: ([',', ' '].intercalate (items.map (valueChars names)) ++ [']']) := by
  rw [valueChars, ofValue, chars_append, chars_append, chars_ofItems, chars_literal, chars_literal]
  rfl

theorem valueChars_classLiteral (name : QualifiedName) :
    valueChars names (.classLiteral name) = (names.text name).toList ++ "::class".toList := by
  rw [valueChars, ofValue, classLiteral, chars_reference]

theorem valueChars_enumEntry (enumClass : QualifiedName) (entry : String) :
    valueChars names (.enumEntry enumClass entry) =
      (names.text enumClass ++ "." ++ entry).toList := by
  rw [valueChars, ofValue, chars_reference]
  simp

theorem valueChars_string (text : String) :
    valueChars names (.string text) = (quote text).toList := by
  rw [valueChars, ofValue, chars_literal]

theorem valueChars_int (value : Int) :
    valueChars names (.int value) = (toString value).toList := by
  rw [valueChars, ofValue, chars_literal]

theorem valueChars_bool (value : Bool) :
    valueChars names (.bool value) = (if value then "true" else "false").toList := by
  rw [valueChars, ofValue, chars_literal]

theorem classNames_append (code other : Code) :
    (code ++ other).classNames = code.classNames ++ other.classNames := List.filterMap_append

theorem mem_classNames_ofFurther {items : List AnnotationValue} {n : QualifiedName} :
    n ∈ (ofFurther items).classNames ↔ ∃ item ∈ items, n ∈ (ofValue item).classNames := by
  induction items with
  | nil => simp [ofFurther, classNames]
  | cons item items ih =>
    rw [ofFurther, classNames_append, classNames_append, List.mem_append, List.mem_append, ih]
    simp [literal, classNames]

theorem mem_classNames_array {items : List AnnotationValue} {n : QualifiedName} :
    n ∈ (ofValue (.array items)).classNames ↔ ∃ item ∈ items, n ∈ (ofValue item).classNames := by
  rw [ofValue, classNames_append, classNames_append]
  cases items with
  | nil => simp [ofItems, literal, classNames]
  | cons item items =>
    rw [ofItems, classNames_append, List.mem_append, List.mem_append, List.mem_append,
      mem_classNames_ofFurther]
    simp [literal, classNames]

end Code

/-! ## Numbers -/

theorem isNameChar_of_isDigit {c : Char} (h : c.isDigit) : isNameChar c :=
  isNameChar_of_continues (continuesIdentifier_of_isDigit h)

theorem isWord_repr (n : Nat) : IsWord n.repr :=
  ⟨repr_ne_nil n, fun _ hc => isNameChar_of_isDigit (isDigit_of_mem_repr hc)⟩

theorem repr_append_inj {m n : Nat} {r s : List Char} (hr : Avoids isNameChar r)
    (hs : Avoids isNameChar s) (h : m.repr.toList ++ r = n.repr.toList ++ s) : m = n ∧ r = s := by
  obtain ⟨hword, hrest⟩ := word_append_inj (isWord_repr m).chars (isWord_repr n).chars hr hs h
  exact ⟨by rw [← digitsValue_repr m, hword, digitsValue_repr], hrest⟩

theorem toList_toString_negSucc (n : Nat) :
    (toString (Int.negSucc n)).toList = '-' :: (n + 1).repr.toList := by
  change ("-" ++ (n + 1).repr).toList = _
  simp

theorem toString_append_inj {i j : Int} {r s : List Char} (hr : Avoids isNameChar r)
    (hs : Avoids isNameChar s) (h : (toString i).toList ++ r = (toString j).toList ++ s) :
    i = j ∧ r = s := by
  cases i with
  | ofNat m =>
    cases j with
    | ofNat n =>
      obtain ⟨rfl, hrest⟩ := repr_append_inj hr hs h
      exact ⟨rfl, hrest⟩
    | negSucc n =>
      rw [toList_toString_negSucc] at h
      exact absurd h ((isWord_repr m).append_ne_cons (by decide) _ _)
  | negSucc m =>
    cases j with
    | ofNat n =>
      rw [toList_toString_negSucc] at h
      exact absurd h.symm ((isWord_repr n).append_ne_cons (by decide) _ _)
    | negSucc n =>
      rw [toList_toString_negSucc, toList_toString_negSucc, List.cons_append, List.cons_append,
        List.cons.injEq] at h
      obtain ⟨heq, hrest⟩ := repr_append_inj hr hs h.2
      rw [Nat.succ.inj heq]
      exact ⟨rfl, hrest⟩

/-! ## Values -/

inductive ValueKind where
  | classLiteral
  | string
  | int
  | bool
  | enumEntry
  | array

def kindOf : AnnotationValue → ValueKind
  | .classLiteral _ => .classLiteral
  | .string _ => .string
  | .int _ => .int
  | .bool _ => .bool
  | .enumEntry .. => .enumEntry
  | .array _ => .array

/-- The kind of the value that a text begins with: by its first character, else by what follows its
first word and by what stands in it. -/
def readKind (text : List Char) : ValueKind :=
  if text.head? = some '"' then .string
  else if text.head? = some '[' then .array
  else if text.head? = some '-' then .int
  else if (text.dropWhile isNameChar).head? = some ':' then .classLiteral
  else if '.' ∈ text.takeWhile isNameChar then .enumEntry
  else if text.head?.any Char.isDigit then .int
  else .bool

/-- What is asked of values: entries have names, and classes are known. -/
structure IsProperValue (known : List QualifiedName) (value : AnnotationValue) : Prop where
  entriesNamed : value.EntriesNamed
  knows : ∀ n ∈ (Code.ofValue value).classNames, n ∈ known

theorem IsProperValue.mem_of_classLiteral {name : QualifiedName}
    (h : IsProperValue known (.classLiteral name)) : name ∈ known :=
  h.knows name (by simp [Code.ofValue, Code.classLiteral, Code.classNames])

theorem IsProperValue.mem_of_enumEntry {enumClass : QualifiedName} {entry : String}
    (h : IsProperValue known (.enumEntry enumClass entry)) :
    enumClass ∈ known ∧ isIdentifier entry := by
  refine ⟨h.knows enumClass (by simp [Code.ofValue, Code.classNames]), ?_⟩
  cases h.entriesNamed with
  | enumEntry _ _ hentry => exact hentry

theorem IsProperValue.of_array {items : List AnnotationValue}
    (h : IsProperValue known (.array items)) : ∀ item ∈ items, IsProperValue known item := by
  intro item hitem
  cases h.entriesNamed with
  | array _ hitems =>
    exact ⟨hitems item hitem, fun n hn => h.knows n (Code.mem_classNames_array.2 ⟨item, hitem, hn⟩)⟩

/-- Whether a character may go on with a value, or with a name that stands before it. -/
def continuesValue (c : Char) : Bool := isNameChar c || c = ':' || c = ' '

theorem continuesValue_of_isNameChar (c : Char) (h : isNameChar c) : continuesValue c := by
  simp [continuesValue, h]

theorem readKind_word {w : String} (hw : IsWord w) {r : List Char} (hr : Avoids isNameChar r) :
    readKind (w.toList ++ r) = if r.head? = some ':' then .classLiteral
      else if '.' ∈ w.toList then .enumEntry
      else if (w.toList ++ r).head?.any Char.isDigit then .int else .bool := by
  rw [readKind, if_neg (hw.head?_ne (by decide) r), if_neg (hw.head?_ne (by decide) r),
    if_neg (hw.head?_ne (by decide) r), dropWhile_append_of_avoids hw.chars hr,
    takeWhile_append_of_avoids hw.chars hr]

theorem isWord_entry {w entry : String} (hw : IsWord w) (hentry : isIdentifier entry) :
    IsWord (w ++ "." ++ entry) :=
  (hw.append (by simp; decide)).append (isWord_of_isIdentifier hentry).chars

theorem isWord_truth (b : Bool) : IsWord (if b then "true" else "false") := by
  cases b
  · exact isWord_of_isIdentifier (by decide)
  · exact isWord_of_isIdentifier (by decide)

theorem readKind_int (i : Int) {r : List Char} (hr : Avoids isNameChar r)
    (hcolon : r.head? ≠ some ':') : readKind ((toString i).toList ++ r) = .int := by
  cases i with
  | ofNat n =>
    have hdigits : ∀ c ∈ n.repr.toList, c.isDigit := fun c => isDigit_of_mem_repr
    have hdot : '.' ∉ n.repr.toList := fun hc => absurd (hdigits '.' hc) (by decide)
    change readKind (n.repr.toList ++ r) = _
    rw [readKind_word (isWord_repr n) hr, if_neg hcolon, if_neg hdot, if_pos]
    cases hn : n.repr.toList with
    | nil => exact absurd hn (repr_ne_nil n)
    | cons c cs => simpa using hdigits c (hn ▸ List.mem_cons_self)
  | negSucc n =>
    rw [toList_toString_negSucc]
    simp [readKind]

theorem readKind_valueChars (hnames : names.Separates known) {value : AnnotationValue}
    (hvalue : IsProperValue known value) {r : List Char} (hr : Avoids continuesValue r) :
    readKind (Code.valueChars names value ++ r) = kindOf value := by
  have hbreak : Avoids isNameChar r := hr.mono continuesValue_of_isNameChar
  have hcolon : r.head? ≠ some ':' := hr.head?_ne (by decide)
  cases value with
  | classLiteral name =>
    have hword := hnames.isWord name hvalue.mem_of_classLiteral
    rw [Code.valueChars_classLiteral, List.append_assoc,
      readKind_word hword (by simp; decide), if_pos (by simp)]
    rfl
  | string text => simp [Code.valueChars_string, quote, readKind, kindOf]
  | int value =>
    rw [Code.valueChars_int, readKind_int value hbreak hcolon]
    rfl
  | bool value =>
    rw [Code.valueChars_bool, readKind_word (isWord_truth value) hbreak, if_neg hcolon]
    cases value <;> simp [kindOf]
  | enumEntry enumClass entry =>
    obtain ⟨hclass, hentry⟩ := hvalue.mem_of_enumEntry
    have hword := hnames.isWord enumClass hclass
    rw [Code.valueChars_enumEntry, readKind_word (isWord_entry hword hentry) hbreak,
      if_neg hcolon, if_pos (by simp)]
    rfl
  | array items => simp [Code.valueChars_array, readKind, kindOf]

theorem kindOf_eq (hnames : names.Separates known) {a b : AnnotationValue}
    (ha : IsProperValue known a) (hb : IsProperValue known b) {r s : List Char}
    (hr : Avoids continuesValue r) (hs : Avoids continuesValue s)
    (h : Code.valueChars names a ++ r = Code.valueChars names b ++ s) : kindOf a = kindOf b := by
  rw [← readKind_valueChars hnames ha hr, h, readKind_valueChars hnames hb hs]

/-- A value begins with a quote, a bracket, a sign, or else with a word, after which it ends or a
colon stands. -/
theorem valueChars_form (hnames : names.Separates known) {value : AnnotationValue}
    (hvalue : IsProperValue known value) :
    (∃ c ∈ ['"', '[', '-'], ∃ t, Code.valueChars names value = c :: t) ∨
      ∃ w t, IsWord w ∧ Code.valueChars names value = w.toList ++ t ∧
        (t = [] ∨ t.head? = some ':') := by
  cases value with
  | classLiteral name =>
    exact .inr ⟨_, _, hnames.isWord name hvalue.mem_of_classLiteral,
      Code.valueChars_classLiteral name, .inr (by simp)⟩
  | string text =>
    rw [Code.valueChars_string, quote, String.toList_ofList]
    exact .inl ⟨'"', by simp, _, rfl⟩
  | int value =>
    rw [Code.valueChars_int]
    cases value with
    | ofNat n => exact .inr ⟨n.repr, [], isWord_repr n, (List.append_nil _).symm, .inl rfl⟩
    | negSucc n => exact .inl ⟨'-', by simp, _, toList_toString_negSucc n⟩
  | bool value =>
    rw [Code.valueChars_bool]
    exact .inr ⟨_, [], isWord_truth value, (List.append_nil _).symm, .inl rfl⟩
  | enumEntry enumClass entry =>
    obtain ⟨hclass, hentry⟩ := hvalue.mem_of_enumEntry
    rw [Code.valueChars_enumEntry]
    exact .inr ⟨_, [], isWord_entry (hnames.isWord enumClass hclass) hentry,
      (List.append_nil _).symm, .inl rfl⟩
  | array items => exact .inl ⟨'[', by simp, _, Code.valueChars_array items⟩

/-- No value begins with a closing bracket or parenthesis. -/
theorem valueChars_append_ne_cons (hnames : names.Separates known) {value : AnnotationValue}
    (hvalue : IsProperValue known value) {c : Char} (hc : c = ']' ∨ c = ')') (r s : List Char) :
    Code.valueChars names value ++ r ≠ c :: s := by
  obtain ⟨d, hd, t, heq⟩ | ⟨w, t, hw, heq, -⟩ := valueChars_form hnames hvalue
  · rw [heq, List.cons_append, ne_eq, List.cons.injEq]
    rintro ⟨rfl, -⟩
    rcases hc with rfl | rfl <;> simp at hd
  · have hword : isNameChar c = false := by rcases hc with rfl | rfl <;> decide
    rw [heq, List.append_assoc]
    exact hw.append_ne_cons hword _ _

theorem classLiteral_append_inj (hnames : names.Separates known) {m n : QualifiedName}
    (hm : m ∈ known) (hn : n ∈ known) {r s : List Char}
    (h : Code.valueChars names (.classLiteral m) ++ r =
      Code.valueChars names (.classLiteral n) ++ s) : m = n ∧ r = s := by
  simp only [Code.valueChars_classLiteral, List.append_assoc] at h
  obtain ⟨heq, hrest⟩ := hnames.append_inj hm hn (by simp; decide) (by simp; decide) h
  exact ⟨heq, List.append_cancel_left hrest⟩

/-- The entry is what stands after the last dot. -/
theorem enumEntry_append_inj (hnames : names.Separates known) {m n : QualifiedName}
    (hm : m ∈ known) (hn : n ∈ known) {entry other : String} (hentry : isIdentifier entry)
    (hother : isIdentifier other) {r s : List Char} (hr : Avoids isNameChar r)
    (hs : Avoids isNameChar s)
    (h : Code.valueChars names (.enumEntry m entry) ++ r =
      Code.valueChars names (.enumEntry n other) ++ s) : m = n ∧ entry = other ∧ r = s := by
  have hdot : continuesIdentifier '.' = false := by decide
  rw [Code.valueChars_enumEntry, Code.valueChars_enumEntry] at h
  obtain ⟨hword, hrest⟩ := word_append_inj (isWord_entry (hnames.isWord m hm) hentry).chars
    (isWord_entry (hnames.isWord n hn) hother).chars hr hs h
  obtain ⟨htext, hentries⟩ := append_cons_inj_of_not_mem (not_mem_of_isIdentifier hentry hdot)
    (not_mem_of_isIdentifier hother hdot) (by simpa using hword)
  exact ⟨hnames.injective m hm n hn (String.toList_inj.1 htext), String.toList_inj.1 hentries,
    hrest⟩

/-- Items in brackets are determined if each of them is. -/
theorem array_append_inj (hnames : names.Separates known) {as bs : List AnnotationValue}
    (has : ∀ a ∈ as, IsProperValue known a ∧
      Determined (Code.valueChars names) (IsProperValue known) (Avoids continuesValue) a)
    (hbs : ∀ b ∈ bs, IsProperValue known b) {r s : List Char}
    (h : Code.valueChars names (.array as) ++ r = Code.valueChars names (.array bs) ++ s) :
    as = bs ∧ r = s := by
  simp only [Code.valueChars_array, List.cons_append, List.append_assoc, List.cons.injEq,
    true_and] at h
  exact close_append_inj (by decide) (fun _ => avoids_cons.2 (by decide))
    (fun _ => avoids_cons.2 (by decide))
    (fun value r s hvalue => valueChars_append_ne_cons hnames hvalue (.inl rfl) r s) has hbs h

/-- **A value is determined by its text.** -/
theorem determined_valueChars (hnames : names.Separates known) {value : AnnotationValue}
    (hvalue : IsProperValue known value) :
    Determined (Code.valueChars names) (IsProperValue known) (Avoids continuesValue) value := by
  have hentries := hvalue.entriesNamed
  -- Along the items of arrays. The other value is of the same kind, as its text is.
  induction hentries with
  | classLiteral name =>
    intro b r s hb hr hs h
    have hkind := kindOf_eq hnames hvalue hb hr hs h
    cases b with
    | classLiteral name' =>
      obtain ⟨rfl, hrest⟩ := classLiteral_append_inj hnames hvalue.mem_of_classLiteral
        hb.mem_of_classLiteral h
      exact ⟨rfl, hrest⟩
    | _ => cases hkind
  | string text =>
    intro b r s hb hr hs h
    have hkind := kindOf_eq hnames hvalue hb hr hs h
    cases b with
    | string text' =>
      rw [Code.valueChars_string, Code.valueChars_string] at h
      obtain ⟨rfl, hrest⟩ := quote_append_inj h
      exact ⟨rfl, hrest⟩
    | _ => cases hkind
  | int value =>
    intro b r s hb hr hs h
    have hkind := kindOf_eq hnames hvalue hb hr hs h
    cases b with
    | int value' =>
      rw [Code.valueChars_int, Code.valueChars_int] at h
      obtain ⟨rfl, hrest⟩ := toString_append_inj (hr.mono continuesValue_of_isNameChar)
        (hs.mono continuesValue_of_isNameChar) h
      exact ⟨rfl, hrest⟩
    | _ => cases hkind
  | bool value =>
    intro b r s hb hr hs h
    have hkind := kindOf_eq hnames hvalue hb hr hs h
    cases b with
    | bool value' =>
      rw [Code.valueChars_bool, Code.valueChars_bool] at h
      cases value <;> cases value' <;> simp_all
    | _ => cases hkind
  | enumEntry enumClass entry hentry =>
    intro b r s hb hr hs h
    have hkind := kindOf_eq hnames hvalue hb hr hs h
    cases b with
    | enumEntry enumClass' entry' =>
      obtain ⟨hclass, -⟩ := hvalue.mem_of_enumEntry
      obtain ⟨hclass', hentry'⟩ := hb.mem_of_enumEntry
      obtain ⟨rfl, rfl, hrest⟩ := enumEntry_append_inj hnames hclass hclass' hentry hentry'
        (hr.mono continuesValue_of_isNameChar) (hs.mono continuesValue_of_isNameChar) h
      exact ⟨rfl, hrest⟩
    | _ => cases hkind
  | array items hitems ih =>
    intro b r s hb hr hs h
    have hkind := kindOf_eq hnames hvalue hb hr hs h
    cases b with
    | array items' =>
      obtain ⟨rfl, hrest⟩ := array_append_inj hnames (fun item hitem =>
        ⟨hvalue.of_array item hitem, ih item hitem (hvalue.of_array item hitem)⟩) hb.of_array h
      exact ⟨rfl, hrest⟩
    | _ => cases hkind

end Kotlin

end Wiring
