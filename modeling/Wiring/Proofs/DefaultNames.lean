import Wiring.Proofs.Names
import Wiring.Proofs.ProvisionsPass

/-!
# Default names

A class that is published without a name goes by its short name with a small first letter. The lower
case of a letter is a letter again, with one exception: a capital I with a dot above becomes an i
and a dot that is put above it, and such a dot is no letter.

* `Text.coversRun`, `Text.inRanges_of_coversRun`: runs of numbers in a table of ranges;
* `Text.caseRuns_alphabetic`, `Text.exists_lowerChar_eq`: the lower case of a character;
* `Text.isIdentifier_decapitalize_iff`: identifiers with a small first letter;
* **`isIdentifier_provisionName_iff`**: which default names are identifiers, and what goes by them.
-/

namespace Wiring

namespace Text

/-! ## Small letters -/

/-- Whether one of the ranges, which are listed in increasing order, has all numbers from `m` to
`n`. -/
def coversRun : List (Nat × Nat) → Nat → Nat → Bool
  | [], _, _ => false
  | (first, last) :: rest, m, n => first.ble m && (n.ble last || coversRun rest m n)

theorem inRanges_of_coversRun {ranges : List (Nat × Nat)} {m n k : Nat}
    (h : coversRun ranges m n) (hm : m ≤ k) (hn : k ≤ n) : inRanges ranges k := by
  induction ranges with
  | nil => cases h
  | cons range rest ih =>
    simp only [coversRun, Bool.and_eq_true, Bool.or_eq_true, Nat.ble_eq] at h
    obtain ⟨hfirst, hlast | hrest⟩ := h
    · simp [inRanges, Nat.not_lt.2 (Nat.le_trans hfirst hm), Nat.le_trans hn hlast]
    · rw [inRanges, if_neg (Nat.not_lt.2 (Nat.le_trans hfirst hm)), ih hrest, Bool.or_true]

/-- The lower cases of a run of capitals lie in one range of letters, and all of them are
characters. -/
theorem caseRuns_alphabetic : ∀ run ∈ caseRuns,
    (run.lower + (run.last - run.first) < 0xD800 ∨
      0xDFFF < run.lower ∧ run.lower + (run.last - run.first) < 0x110000) ∧
    coversRun alphabetic run.lower (run.lower + (run.last - run.first)) := by
  decide +kernel

theorem isAlphabetic_of_lower? {run : CaseRun} (hrun : run ∈ caseRuns) {m n : Nat}
    (h : run.lower? m = some n) : isAlphabetic (Char.ofNat n) := by
  obtain ⟨hvalid, hcovers⟩ := caseRuns_alphabetic run hrun
  rw [CaseRun.lower?] at h
  split at h
  · next hm =>
    cases h
    have hchar : (run.lower + (m - run.first)).isValidChar := by
      rw [Nat.isValidChar]
      omega
    have htoNat :
        (Char.ofNat (run.lower + (m - run.first))).toNat = run.lower + (m - run.first) := by
      rw [Char.ofNat, dif_pos hchar]
      rfl
    rw [isAlphabetic, htoNat]
    exact inRanges_of_coversRun hcovers (by omega) (by omega)
  · cases h

/-- The lower case of every other character than a capital I with a dot above is one character: the
character itself or a letter. -/
theorem exists_lowerChar_eq {c : Char} (hc : c ≠ '\u0130') :
    ∃ d, lowerChar c = [d] ∧ (d = c ∨ isAlphabetic d) := by
  rw [lowerChar, if_neg hc]
  split
  · next n hfound =>
    obtain ⟨run, hrun, hlower⟩ := List.exists_of_findSome?_eq_some hfound
    exact ⟨_, rfl, .inr (isAlphabetic_of_lower? hrun hlower)⟩
  · exact ⟨c, rfl, .inl rfl⟩

/-- **An identifier stays one with a small first letter**, unless it begins with a capital I with a
dot above. -/
theorem isIdentifier_decapitalize_iff {s : String} (h : isIdentifier s) :
    isIdentifier (decapitalize s) ↔ s.toList.head? ≠ some '\u0130' := by
  rw [isIdentifier] at h
  split at h
  · cases h
  · next c cs hs =>
    rw [Bool.and_eq_true] at h
    rw [decapitalize, hs, List.head?_cons, Ne, Option.some_inj]
    by_cases hc : c = '\u0130'
    · -- The dot that is left over may not stand in an identifier.
      have hdot : continuesIdentifier '\u0307' = false := by decide
      rw [hc]
      simp [lowerChar, isIdentifier, hdot]
    · obtain ⟨d, hd, hletter⟩ := exists_lowerChar_eq hc
      have hstart : startsIdentifier d := by
        rcases hletter with rfl | hletter
        · exact h.1
        · simp [startsIdentifier, hletter]
      have hname : isIdentifier (String.ofList (d :: cs)) := by
        simp [isIdentifier, hstart, h.2]
      simp only [hd, List.singleton_append, hname, hc, not_false_iff]

end Text

/-! ## Published classes -/

open Text

/-- **Which default names are identifiers**: those of all classes whose short names do not begin
with a capital I with a dot above. A class that is published goes by its default name wherever no
other name is given. -/
theorem isIdentifier_provisionName_iff (c : ClassDeclaration) (hname : c.name.isValid) :
    (isIdentifier c.provisionName ↔ c.name.shortName.toList.head? ≠ some '\u0130') ∧
      ∀ schema : Schema, schema.hasDistinctMarkers →
        ∃ provisions, c.provisions schema = .ok provisions ∧
          provisions.map (·.name) = (annotationsOf c.annotations schema.contribution).map
            fun ann => Schema.givenName ann c.provisionName := by
  refine ⟨isIdentifier_decapitalize_iff (QualifiedName.isIdentifier_shortName hname),
    fun schema hmarkers => ?_⟩
  have hyields := schema.yields_provisions hmarkers c.annotations c.provisionName c.asType c.element
  refine ⟨_, (hyields _).2 ⟨trivial, rfl⟩, ?_⟩
  rw [Schema.markedProvisions, List.map_map]
  rfl

/-- A published class whose short name begins with a capital letter made of two letters. -/
def jungle : ClassDeclaration :=
  (ClassDeclaration.ofName "p" "\u01C4ungla").annotate
    ⟨({} : Schema).contribution, [⟨none, .classLiteral ⟨"p.App"⟩⟩], []⟩

/-- Its default name begins with the small letter, and the class goes by it. -/
theorem isIdentifier_provisionName_jungle :
    jungle.name.isValid ∧ jungle.provisionName = "\u01C6ungla" ∧ isIdentifier "\u01C6ungla" ∧
      ∃ provisions, jungle.provisions {} = .ok provisions ∧
        provisions.map (·.name) = ["\u01C6ungla"] := by
  have hname : jungle.name.isValid := by decide
  have hdefault : jungle.provisionName = "\u01C6ungla" := by decide
  obtain ⟨hiff, hprovisions⟩ := isIdentifier_provisionName_iff jungle hname
  obtain ⟨provisions, hmade, hnames⟩ := hprovisions {} (by decide)
  exact ⟨hname, hdefault, hdefault ▸ hiff.2 (by decide), provisions, hmade, hnames⟩

/-- A published class whose short name begins with a capital I with a dot above. -/
def dottedClass : ClassDeclaration :=
  (ClassDeclaration.ofName "p" "\u0130stanbul").annotate
    ⟨({} : Schema).contribution, [⟨none, .classLiteral ⟨"p.App"⟩⟩], []⟩

/-- **A default name may be no identifier** although the name of the class is valid: the dot above a
capital I is left over as a character of its own, and a property with such a name is generated. -/
theorem dotted_default_no_identifier :
    dottedClass.name.isValid ∧ dottedClass.provisionName = "i\u0307stanbul" ∧
      isIdentifier dottedClass.provisionName = false ∧
      ∃ file, generateProvisions dottedClass (({} : Settings).toContext .empty) = .ok (some file) ∧
        file.interfaces.flatMap (fun i => i.properties.map (·.name)) =
          [dottedClass.provisionName] := by
  exact ⟨by decide, by decide, by decide, _, rfl, by decide⟩

end Wiring
