import Wiring.Decimal.Basic

/-!
# The digits of whole numbers

A whole number is written with decimal digits only, without a leading zero, and is the value of its
digits.

* `digitsValue_repr`, `isDigit_of_mem_repr`, `repr_ne_nil`, `repr_ne_cons`, `head?_repr`.
-/

namespace Wiring

theorem digitsValue_repr (n : Nat) : digitsValue n.repr.toList = n := by
  rw [Nat.toList_repr]
  exact Nat.ofDigitChars_toDigits (by decide) (by decide)

theorem isDigit_of_mem_repr {n : Nat} {c : Char} (h : c ∈ n.repr.toList) : c.isDigit := by
  rw [Nat.toList_repr] at h
  exact Nat.isDigit_of_mem_toDigits (by decide) (by decide) h

theorem repr_ne_nil (n : Nat) : n.repr.toList ≠ [] := by
  rw [Nat.toList_repr]
  exact Nat.toDigits_ne_nil

theorem repr_ne_cons {n : Nat} {c : Char} {cs : List Char} (hc : c.isDigit = false) :
    n.repr.toList ≠ c :: cs := by
  intro h
  have hdigit : c.isDigit := isDigit_of_mem_repr (h ▸ List.mem_cons_self)
  rw [hc] at hdigit
  cases hdigit

theorem digitChar_ne_zero : ∀ digit < 10, 0 < digit → Nat.digitChar digit ≠ '0' := by decide

/-- Only zero itself starts with a zero: the first digit is that of a tenth of the number, as long
as there are more digits. -/
theorem head?_repr {n : Nat} (h : 0 < n) : n.repr.toList.head? ≠ some '0' := by
  rw [Nat.toList_repr]
  induction n using Nat.strongRecOn with
  | _ n ih =>
    by_cases hn : n < 10
    · rw [Nat.toDigits_of_lt_base hn, List.head?_cons, ne_eq, Option.some.injEq]
      exact digitChar_ne_zero n hn h
    · have htenth : (Nat.toDigits 10 (n / 10)).head? ≠ some '0' := ih (n / 10) (by omega) (by omega)
      rw [Nat.toDigits_of_base_le (by decide) (by omega), List.head?_append]
      cases hdigits : Nat.toDigits 10 (n / 10) with
      | nil => exact absurd hdigits Nat.toDigits_ne_nil
      | cons c cs => simpa [hdigits] using htenth

theorem repr_zero : (0 : Nat).repr.toList = ['0'] := rfl

end Wiring
