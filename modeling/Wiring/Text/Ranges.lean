/-!
# Ranges of characters

* `inRanges`: whether a number lies in one of a list of ranges;
* `exists_mem_of_inRanges`: only what lies in one of the ranges is found.
-/

namespace Wiring.Text

/-- Whether `n` lies in one of the ranges, which are listed in increasing order. -/
def inRanges : List (Nat × Nat) → Nat → Bool
  | [], _ => false
  | (first, last) :: rest, n => if n < first then false else n ≤ last || inRanges rest n

/-- Whatever lies in the ranges lies in one of them. -/
theorem exists_mem_of_inRanges {ranges : List (Nat × Nat)} {n : Nat} (h : inRanges ranges n) :
    ∃ range ∈ ranges, range.1 ≤ n ∧ n ≤ range.2 := by
  induction ranges with
  | nil => simp [inRanges] at h
  | cons range rest ih =>
    by_cases first : n < range.1
    · simp [inRanges, first] at h
    · by_cases last : n ≤ range.2
      · exact ⟨range, by simp, by omega, last⟩
      · simp only [inRanges, first, last, if_false, decide_false, Bool.false_or] at h
        obtain ⟨found, member, bounds⟩ := ih h
        exact ⟨found, List.mem_cons_of_mem _ member, bounds⟩

end Wiring.Text
