/-!
# Distinct members

The members of a list, each once, at the place of its first occurrence.

* `addNew`, `distinct`, with `mem_addNew`, `nodup_addNew`.
-/

namespace Wiring

variable {α : Type} [DecidableEq α]

/-- Append the members of a list that are not there yet. -/
def addNew (seen : List α) : List α → List α
  | [] => seen
  | a :: rest => if a ∈ seen then addNew seen rest else addNew (seen ++ [a]) rest

/-- The members of a list in the order of their first occurrence. -/
def distinct (list : List α) : List α := addNew [] list

theorem mem_addNew {seen list : List α} {a : α} : a ∈ addNew seen list ↔ a ∈ seen ∨ a ∈ list := by
  induction list generalizing seen with
  | nil => simp [addNew]
  | cons b rest ih =>
    rw [addNew]
    split
    · next h =>
      rw [ih, List.mem_cons]
      constructor
      · rintro (h' | h') <;> simp [h']
      · rintro (h' | rfl | h') <;> simp_all
    · rw [ih]
      simp [or_assoc]

theorem nodup_addNew {seen list : List α} (h : seen.Nodup) : (addNew seen list).Nodup := by
  induction list generalizing seen with
  | nil => exact h
  | cons b rest ih =>
    rw [addNew]
    split
    · exact ih h
    · next hb =>
      refine ih (List.nodup_append.2 ⟨h, by simp, ?_⟩)
      intro a ha c hc
      rw [List.mem_singleton] at hc
      exact fun hac => hb (hc ▸ hac ▸ ha)

theorem mem_distinct {list : List α} {a : α} : a ∈ distinct list ↔ a ∈ list := by
  simp [distinct, mem_addNew]

theorem nodup_distinct (list : List α) : (distinct list).Nodup :=
  nodup_addNew List.nodup_nil

end Wiring
