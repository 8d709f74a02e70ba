import Wiring.Kotlin.Render

/-!
# Reading string literals

A literal is read from its opening quote to the first quote without a backslash. A backslash and
what follows it stand for one character, and neither a line end nor a dollar sign, which would begin
a template, may stand there by itself.

* `unescapedChar?`, `scanContent?`, `scanLiteral?`: the reader;
* `escapedChar_cases`: how a character is written; `scanContent?_escapedChar`: it is read as itself;
* **`scanLiteral?_quote`**: what is written for a text is read as this text, whatever follows.
-/

namespace Wiring.Kotlin

/-! ## The reader -/

/-- What a backslash and a character stand for. -/
def unescapedChar? : Char → Option Char
  | '\\' => some '\\'
  | '"' => some '"'
  | '$' => some '$'
  | 'n' => some '\n'
  | 'r' => some '\r'
  | 't' => some '\t'
  | _ => none

/-- Whether a character may not stand in a literal without a backslash. -/
def needsBackslash (c : Char) : Bool := c = '\\' || c = '$' || c = '\n' || c = '\r'

/-- Read a literal after its opening quote: its content and what follows it. -/
def scanContent? : List Char → Option (List Char × List Char)
  | [] => none
  | '"' :: rest => some ([], rest)
  | '\\' :: c :: rest => do
    let decoded ← unescapedChar? c
    (scanContent? rest).map (Prod.map (decoded :: ·) id)
  | c :: rest =>
    if needsBackslash c then none else (scanContent? rest).map (Prod.map (c :: ·) id)

/-- Read a literal at the beginning of a text: what it stands for, and the rest of the text. -/
def scanLiteral? (text : String) : Option (String × String) :=
  match text.toList with
  | '"' :: cs => (scanContent? cs).map (Prod.map String.ofList String.ofList)
  | _ => none

/-! ## What is written -/

/-- A character is written after a backslash, as what stands for it there, or by itself. -/
theorem escapedChar_cases (c : Char) :
    (∃ sign, escapedChar c = ['\\', sign] ∧ unescapedChar? sign = some c) ∨
      (escapedChar c = [c] ∧ needsBackslash c = false ∧ c ≠ '"') := by
  unfold escapedChar
  split
  case h_7 => exact .inr ⟨rfl, by simp_all [needsBackslash], by assumption⟩
  all_goals exact .inl ⟨_, rfl, rfl⟩

theorem scanContent?_of_plain {c : Char} (hquote : c ≠ '"') (h : needsBackslash c = false)
    (cs : List Char) :
    scanContent? (c :: cs) = (scanContent? cs).map (Prod.map (c :: ·) id) := by
  have hbackslash : c ≠ '\\' := by
    rintro rfl
    cases h
  rw [scanContent?.eq_4 _ _ hquote (fun _ _ heq => absurd heq hbackslash), if_neg (by simp [h])]

/-- A written character is read as itself. -/
theorem scanContent?_escapedChar (c : Char) (cs : List Char) :
    scanContent? (escapedChar c ++ cs) = (scanContent? cs).map (Prod.map (c :: ·) id) := by
  rcases escapedChar_cases c with ⟨sign, hwritten, hsign⟩ | ⟨hwritten, hplain, hquote⟩
  · rw [hwritten, List.cons_append, List.singleton_append, scanContent?, hsign]
    rfl
  · rw [hwritten, List.singleton_append, scanContent?_of_plain hquote hplain]

/-- Written characters are read up to the closing quote. -/
theorem scanContent?_flatMap (cs rest : List Char) :
    scanContent? (cs.flatMap escapedChar ++ '"' :: rest) = some (cs, rest) := by
  induction cs with
  | nil => rw [List.flatMap_nil, List.nil_append, scanContent?]
  | cons c cs ih =>
    rw [List.flatMap_cons, List.append_assoc, scanContent?_escapedChar, ih]
    rfl

theorem toList_quote_append (s : String) (rest : List Char) :
    (quote s).toList ++ rest = '"' :: (s.toList.flatMap escapedChar ++ '"' :: rest) := by
  simp [quote]

/-- **The literal of a text is read as this text**, and what follows it is left, also where the text
is the value of an argument. -/
theorem scanLiteral?_quote (s rest : String) :
    scanLiteral? (quote s ++ rest) = some (s, rest) ∧
      ∀ names, scanLiteral? ((Code.ofValue (.string s)).render names ++ rest) = some (s, rest) := by
  have hread : scanLiteral? (quote s ++ rest) = some (s, rest) := by
    rw [scanLiteral?, String.toList_append, toList_quote_append]
    simp [scanContent?_flatMap]
  refine ⟨hread, fun names => ?_⟩
  have hcode : (Code.ofValue (.string s)).render names = quote s := by
    simp [Code.ofValue, Code.literal, Code.render, CodePart.render]
  rw [hcode, hread]

example : scanLiteral? "\"a\\$b\\\\\" $c" = some ("a$b\\", " $c") := by decide

example : scanLiteral? "\"a$b\"" = none := by decide

end Wiring.Kotlin
