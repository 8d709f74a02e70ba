import Wiring.Distinct

/-!
# First occurrences

The distinct members of a list stand in the order of their first occurrences.

* `addNew_append`: members that come in two parts;
* `distinct_eq_eraseDups`: what is appended to nothing.
-/

namespace Wiring

variable {α : Type} [DecidableEq α]

theorem addNew_append (seen a b : List α) :
    addNew seen (a ++ b) = addNew (addNew seen a) b := by
  induction a generalizing seen with
  | nil => rfl
  | cons x rest ih =>
    rw [List.cons_append, addNew, addNew]
    split <;> exact ih _

theorem addNew_eq_append (seen list : List α) :
    addNew seen list = seen ++ (list.filter (· ∉ seen)).eraseDups := by
  induction list generalizing seen with
  | nil => simp [addNew]
  | cons a rest ih =>
    rw [addNew]
    by_cases h : a ∈ seen
    · rw [if_pos h, ih, List.filter_cons_of_neg (by simpa using h)]
    · rw [if_neg h, ih, List.filter_cons_of_pos (by simpa using h), List.eraseDups_cons,
        List.filter_filter, List.append_assoc, List.singleton_append]
      congr 4
      funext b
      by_cases hb : b = a <;> simp [hb]

theorem distinct_eq_eraseDups (list : List α) : distinct list = list.eraseDups := by
  rw [distinct, addNew_eq_append, List.nil_append, List.filter_eq_self.2]
  simp

end Wiring
