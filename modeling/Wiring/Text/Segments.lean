/-!
# Segments of a text

A text is cut at every occurrence of a separator character. Empty pieces are kept, so joining the
pieces with the separator gives the text back.

* `splitOn`, `splitOn_ne_nil`, `intercalate_splitOn`: cutting a list of characters;
* `segments`: the same for a string;
* `dropStart?`: what is left of a list after a given beginning.
-/

namespace Wiring.Text

/-- The pieces of `cs` between the occurrences of `sep`. -/
def splitOn (sep : Char) : List Char → List (List Char)
  | [] => [[]]
  | c :: cs =>
    if c = sep then [] :: splitOn sep cs
    else
      match splitOn sep cs with
      | [] => [[c]]
      | piece :: rest => (c :: piece) :: rest

theorem splitOn_ne_nil (sep : Char) (cs : List Char) : splitOn sep cs ≠ [] := by
  cases cs with
  | nil => simp [splitOn]
  | cons c cs =>
    rw [splitOn]
    split
    · simp
    · split <;> simp

/-- Joining the pieces gives the text back. -/
theorem intercalate_splitOn (sep : Char) (cs : List Char) :
    [sep].intercalate (splitOn sep cs) = cs := by
  induction cs with
  | nil => simp [splitOn, List.intercalate]
  | cons c cs ih =>
    rw [splitOn]
    cases h : splitOn sep cs with
    | nil => exact absurd h (splitOn_ne_nil sep cs)
    | cons piece rest =>
      rw [h] at ih
      split
      · next hc => subst hc; simp_all [List.intercalate, List.intersperse]
      · cases rest <;> simp_all [List.intercalate, List.intersperse]

/-- No piece contains the separator. -/
theorem not_mem_of_mem_splitOn {sep : Char} {cs piece : List Char} (h : piece ∈ splitOn sep cs) :
    sep ∉ piece := by
  induction cs generalizing piece with
  | nil => simp_all [splitOn]
  | cons c cs ih =>
    rw [splitOn] at h
    split at h
    · rcases List.mem_cons.1 h with rfl | h
      · simp
      · exact ih h
    · next hc =>
      split at h
      · next hn => exact absurd hn (splitOn_ne_nil sep cs)
      · next head rest hs =>
        rcases List.mem_cons.1 h with rfl | h
        · have := @ih head (by simp [hs])
          simp [this, Ne.symm hc]
        · exact ih (by simp [hs, h])

/-- The pieces of a string between the occurrences of `sep`. -/
def segments (sep : Char) (s : String) : List String :=
  (splitOn sep s.toList).map String.ofList

/-- What follows `start` in `cs`, if `cs` begins with it. -/
def dropStart? {α : Type} [DecidableEq α] : List α → List α → Option (List α)
  | [], cs => some cs
  | _ :: _, [] => none
  | p :: ps, c :: cs => if p = c then dropStart? ps cs else none

theorem dropStart?_eq_some_iff {α : Type} [DecidableEq α] {start cs rest : List α} :
    dropStart? start cs = some rest ↔ cs = start ++ rest := by
  induction start generalizing cs with
  | nil => simp [dropStart?, eq_comm]
  | cons p ps ih =>
    cases cs with
    | nil => simp [dropStart?]
    | cons c cs =>
      rw [dropStart?]
      split
      · next h => subst h; simp [ih]
      · next h => simp [Ne.symm h]

end Wiring.Text
