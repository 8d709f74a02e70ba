import Mathlib.Data.List.TakeWhile
import Wiring.Proofs.DecimalDigits
import Wiring.Settings.Conversion
import Wiring.Settings.Environment

/-!
# Texts whose type is guessed

The text of a variable is taken for a truth value or a number if it looks like one, and where a text
is asked for, the truth value or the number gives its own text. This need not be the text that was
there: numbers lose leading zeros, signs, exponents and digits, and words lose their capitals.

* `Text.isSmall`, `Text.lowerCase_eq_self`: what stays the same in lower case;
* `Binary64.exists_text_eq`: the form of the text of a double;
* `Setting.ofText_repr`, `Setting.ofText_eq_text_iff`: what texts are taken for;
* `Setting.ComesBack`: the texts that come back unchanged;
* **`Setting.text?_ofText_eq_self_iff`**: they are all of them, among the texts that are neither
  negative numbers nor numbers with a point.
-/

namespace Wiring

/-! ## Lower case -/

namespace Text

/-- The capitals are those from A to Z, and others that come far behind. -/
theorem capitals_of_mem_caseRuns : ∀ run ∈ caseRuns,
    'A'.toNat ≤ run.first ∧ (run.last ≤ 'Z'.toNat ∨ 0xC0 ≤ run.first) := by
  decide +kernel

/-- Whether a character comes before the capitals from A to Z, or after these and before all other
capitals. -/
def isSmall (c : Char) : Bool := c.toNat < 'A'.toNat || 'Z'.toNat < c.toNat && c.toNat < 0xC0

theorem lowerChar_of_isSmall {c : Char} (h : isSmall c) : lowerChar c = [c] := by
  have hdotted : c ≠ '\u0130' := by
    rintro rfl
    cases h
  simp only [isSmall, Bool.or_eq_true, Bool.and_eq_true, decide_eq_true_eq] at h
  have hnone : caseRuns.findSome? (·.lower? c.toNat) = none := by
    refine List.findSome?_eq_none_iff.2 fun run hrun => if_neg fun hin => ?_
    obtain ⟨hcapital, hlast⟩ := capitals_of_mem_caseRuns run hrun
    omega
  rw [lowerChar, if_neg hdotted, hnone]

theorem isSmall_of_isDigit {c : Char} (h : c.isDigit) : isSmall c := by
  simp only [Char.isDigit, Bool.and_eq_true, decide_eq_true_eq] at h
  have hlast : c.toNat < 'A'.toNat := Nat.lt_of_le_of_lt h.2 (by decide)
  rw [isSmall, decide_eq_true hlast, Bool.true_or]

theorem lowerWithin_of_isSmall {c : Char} (h : isSmall c) (before after : List Char) :
    lowerWithin before c after = [c] := by
  have hsigma : c ≠ 'Σ' := by
    rintro rfl
    cases h
  rw [lowerWithin, if_neg fun hend => hsigma hend.1, lowerChar_of_isSmall h]

theorem lowerOnto_eq (done before cs : List Char) :
    lowerOnto done before cs = done.reverse ++ lowerOnto [] before cs := by
  induction cs generalizing done before with
  | nil => rw [lowerOnto, lowerOnto, List.reverse_nil, List.append_nil]
  | cons c cs ih =>
    rw [lowerOnto, ih, lowerOnto, ih (_ ++ []), List.append_nil, List.reverse_append,
      List.append_assoc]

theorem lowerOnto_cons_of_isSmall {c : Char} (h : isSmall c) (before cs : List Char) :
    lowerOnto [] before (c :: cs) = c :: lowerOnto [] (c :: before) cs := by
  rw [lowerOnto, lowerOnto_eq, lowerWithin_of_isSmall h]
  rfl

/-- A text without capitals is in lower case. -/
theorem lowerCase_eq_self {s : String} (h : s.toList.all isSmall) : lowerCase s = s := by
  have honto (cs : List Char) : cs.all isSmall → ∀ before, lowerOnto [] before cs = cs := by
    induction cs with
    | nil => exact fun _ _ => rfl
    | cons c cs ih =>
      intro hcs before
      rw [List.all_cons, Bool.and_eq_true] at hcs
      rw [lowerOnto_cons_of_isSmall hcs.1, ih hcs.2]
  rw [lowerCase, honto s.toList h, String.ofList_toList]

end Text

/-! ## Texts of numbers -/

theorem exists_eq_cons_repr (n : Nat) : ∃ c cs, n.repr.toList = c :: cs ∧ c.isDigit := by
  obtain ⟨c, cs, h⟩ := List.exists_cons_of_ne_nil (repr_ne_nil n)
  exact ⟨c, cs, h, isDigit_of_mem_repr (h ▸ List.mem_cons_self)⟩

theorem Decimal.signedDigits?_repr (n : Nat) : signedDigits? n.repr.toList = some (n : Int) := by
  have hne : n.repr.toList.isEmpty = false := List.isEmpty_eq_false_iff.2 (repr_ne_nil n)
  have hdigits : n.repr.toList.all Char.isDigit :=
    List.all_eq_true.2 fun c => isDigit_of_mem_repr
  rw [signedDigits?.eq_3 _ (fun _ => repr_ne_cons rfl) (fun _ => repr_ne_cons rfl), hne, hdigits,
    digitsValue_repr]
  rfl

theorem Decimal.ofChars?_repr (n : Nat) : ofChars? n.repr.toList = some ⟨false, n, 0⟩ := by
  have hall : ∀ c ∈ n.repr.toList, c.isDigit := fun c => isDigit_of_mem_repr
  have hwhole : n.repr.toList.takeWhile Char.isDigit = n.repr.toList :=
    List.takeWhile_eq_self_iff.2 hall
  have hrest : n.repr.toList.dropWhile Char.isDigit = [] := List.dropWhile_eq_nil_iff.2 hall
  have hne : n.repr.toList.isEmpty = false := List.isEmpty_eq_false_iff.2 (repr_ne_nil n)
  have hparts : ofParts false n.repr.toList [] 0 = ⟨false, n, 0⟩ := by
    rw [ofParts, List.append_nil, digitsValue_repr]
    rfl
  rw [ofChars?.eq_3 _ (fun _ => repr_ne_cons rfl) (fun _ => repr_ne_cons rfl), ofUnsigned?, hwhole,
    hrest]
  simp only [hne, Bool.false_eq_true, if_false, exponent?, Option.map_some, hparts]

theorem Binary64.ofText?_repr (n : Nat) : ofText? n.repr = some (ofDecimal ⟨false, n, 0⟩) := by
  rw [ofText?, Decimal.ofChars?_repr]

/-- The text of a number in positional notation is that of its whole part, and after it nothing or
a point with digits. -/
theorem Binary64.exists_positional_eq (digits : Nat) (power : Int) :
    ∃ n tail, positional digits power = Nat.repr n ++ tail ∧ (tail = "" ∨ '.' ∈ tail.toList) := by
  rw [positional]
  split
  · exact ⟨_, "", String.append_empty.symm, .inl rfl⟩
  · refine ⟨_, _, rfl, ?_⟩
    split
    · exact .inl rfl
    · exact .inr (by simp)

/-- The text of a double is a word, begins with a minus sign, or is that of a whole number with
nothing or a point with digits after it. -/
theorem Binary64.exists_text_eq (x : Binary64) :
    x.text ∈ ["inf", "NaN"] ∨ x.text.toList.head? = some '-' ∨
      ∃ n tail, x.text = Nat.repr n ++ tail ∧ (tail = "" ∨ '.' ∈ tail.toList) := by
  cases x with
  | nan => exact .inl (List.mem_cons_of_mem _ List.mem_cons_self)
  | infinite negative =>
    cases negative with
    | true => exact .inr (.inl rfl)
    | false => exact .inl List.mem_cons_self
  | finite negative mantissa exponent =>
    refine .inr ?_
    cases negative with
    | true => exact .inl (by simp [text])
    | false =>
      refine .inr ?_
      rw [text, if_neg Bool.false_ne_true, String.empty_append]
      split
      · exact ⟨0, "", rfl, .inl rfl⟩
      · exact exists_positional_eq _ _

namespace Setting

/-! ## The guess and the way back -/

/-- The text of a whole number is taken for the number, or for the nearest double if it does not fit
in a word with a sign. -/
theorem ofText_repr (n : Nat) : ofText n.repr =
    if inSignedWord n then .int n else .float (.ofDecimal ⟨false, n, 0⟩) := by
  have hlower : Text.lowerCase n.repr = n.repr :=
    Text.lowerCase_eq_self (List.all_eq_true.2 fun c hc =>
      Text.isSmall_of_isDigit (isDigit_of_mem_repr hc))
  have htrue : n.repr ≠ "true" := fun h => repr_ne_cons (c := 't') rfl (congrArg String.toList h)
  have hfalse : n.repr ≠ "false" := fun h => repr_ne_cons (c := 'f') rfl (congrArg String.toList h)
  rw [ofText, hlower, if_neg htrue, if_neg hfalse,
    wordWithSign?, Decimal.signedDigits?_repr, Option.filter_some]
  by_cases hn : inSignedWord n
  · rw [if_pos hn, if_pos hn]
  · rw [if_neg hn, if_neg hn, Binary64.ofText?_repr]

/-- A text is taken for itself if it is neither a truth value nor a number. -/
theorem ofText_eq_text_iff {text given : String} :
    ofText text = .text given ↔ text = given ∧ Text.lowerCase text ∉ ["true", "false"] ∧
      wordWithSign? text = none ∧ Binary64.ofText? text = none := by
  rw [ofText]
  split
  · next h => simp [h]
  · next htrue =>
    split
    · next h => simp [h]
    · next hfalse =>
      cases wordWithSign? text with
      | some n => simp
      | none =>
        cases Binary64.ofText? text with
        | some x => simp
        | none => simp [htrue, hfalse]

/-- A text that is asked for is always given, whatever the text of the variable was taken for. -/
theorem exists_text?_ofText (text : String) : ∃ given, (ofText text).text? = some given := by
  rw [ofText]
  split
  · exact ⟨_, rfl⟩
  · split
    · exact ⟨_, rfl⟩
    · split
      · exact ⟨_, rfl⟩
      · split <;> exact ⟨_, rfl⟩

/-- The texts that come back unchanged: those that are neither truth values nor numbers, the words
for truth values and special numbers as these are written, and the digits of whole numbers without
leading zeros, as long as no digit gets lost in a double. -/
inductive ComesBack (text : String) : Prop where
  | plain (htruth : Text.lowerCase text ∉ ["true", "false"]) (hwhole : wordWithSign? text = none)
      (hdouble : Binary64.ofText? text = none)
  | word (h : text ∈ ["true", "false", "inf", "NaN"])
  | whole (n : Nat) (h : text = n.repr) (hfits : inSignedWord n)
  | double (n : Nat) (h : text = n.repr)
      (hexact : (Binary64.ofDecimal ⟨false, n, 0⟩).text = n.repr)

variable {text : String}

theorem text?_ofText_of_mem_words :
    ∀ word ∈ ["true", "false", "inf", "NaN"], (ofText word).text? = some word := by
  decide +kernel

theorem ComesBack.text?_ofText (h : ComesBack text) : (ofText text).text? = some text := by
  cases h with
  | plain htruth hwhole hdouble =>
    rw [ofText_eq_text_iff.2 ⟨rfl, htruth, hwhole, hdouble⟩, text?]
  | word h => exact text?_ofText_of_mem_words text h
  | whole n h hfits =>
    rw [h, ofText_repr, if_pos hfits]
    rfl
  | double n h hexact =>
    rw [h, ofText_repr]
    split
    · rfl
    · rw [text?, hexact]

theorem comesBack_of_text?_ofText (hminus : text.toList.head? ≠ some '-')
    (hpoint : ∀ c, text.toList.head? = some c → c.isDigit → '.' ∉ text.toList)
    (h : (ofText text).text? = some text) : ComesBack text := by
  cases hguess : ofText text with
  | nothing => rw [hguess] at h; cases h
  | list => rw [hguess] at h; cases h
  | table => rw [hguess] at h; cases h
  | text given =>
    rw [hguess] at h
    cases h
    obtain ⟨-, htruth, hwhole, hdouble⟩ := ofText_eq_text_iff.1 hguess
    exact .plain htruth hwhole hdouble
  | bool value =>
    rw [hguess] at h
    cases h
    cases value
    · exact .word (by simp)
    · exact .word (by simp)
  | int n =>
    rw [hguess] at h
    cases h
    cases n with
    | negSucc n => exact absurd (by simp [Int.toString_eq_repr, Int.repr]) hminus
    | ofNat n =>
      change ofText n.repr = .int n at hguess
      refine .whole n rfl ?_
      by_contra hword
      rw [ofText_repr, if_neg hword] at hguess
      cases hguess
  | float x =>
    rw [hguess] at h
    cases h
    rcases x.exists_text_eq with hword | hnegative | ⟨n, tail, htext, rfl | hmem⟩
    · exact .word (List.mem_cons_of_mem _ (List.mem_cons_of_mem _ hword))
    · exact absurd hnegative hminus
    · rw [String.append_empty] at htext
      refine .double n htext ?_
      rw [htext, ofText_repr] at hguess
      split at hguess
      · cases hguess
      · cases hguess
        exact htext
    · obtain ⟨c, cs, hn, hc⟩ := exists_eq_cons_repr n
      have hlist : x.text.toList = c :: (cs ++ tail.toList) := by
        rw [htext, String.toList_append, hn, List.cons_append]
      refine absurd ?_ (hpoint c (by rw [hlist, List.head?_cons]) hc)
      rw [hlist]
      exact List.mem_cons_of_mem _ (List.mem_append_right _ hmem)

/-- **The texts that come back unchanged**, among those that are neither negative numbers nor
numbers with a point. -/
theorem text?_ofText_eq_self_iff (hminus : text.toList.head? ≠ some '-')
    (hpoint : ∀ c, text.toList.head? = some c → c.isDigit → '.' ∉ text.toList) :
    (ofText text).text? = some text ↔ ComesBack text :=
  ⟨comesBack_of_text?_ofText hminus hpoint, ComesBack.text?_ofText⟩

end Setting

end Wiring
