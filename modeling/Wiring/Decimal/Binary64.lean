import Wiring.Decimal.Basic

/-!
# Double-precision numbers

The binary numbers of 53 bits, with exact arithmetic on whole numbers throughout.

* `Binary64`: not a number, an infinity, or `mantissa * 2 ^ exponent`;
* `Binary64.ofDecimal`: the nearest one to a decimal, a tie going to the even mantissa;
* `Binary64.toWord`: rounding to a word of 64 bits.
-/

namespace Wiring

/-- The quotient `num / den` rounded to the nearest whole number, a half to the even one. -/
def roundToEven (num den : Nat) : Nat :=
  let q := num / den
  let r := num % den
  if 2 * r < den then q else if den < 2 * r then q + 1 else if q % 2 = 0 then q else q + 1

/-- A double-precision number. A finite one is `mantissa * 2 ^ exponent`, where the mantissa has 53
bits unless the exponent is the least one, `-1074`. -/
inductive Binary64 where
  | nan
  | infinite (negative : Bool)
  | finite (negative : Bool) (mantissa : Nat) (exponent : Int)
  deriving DecidableEq

namespace Binary64

/-- The zero of either sign. -/
def zero (negative : Bool) : Binary64 := .finite negative 0 (-1074)

/-- The double nearest to the quotient of a number and a positive number. -/
def ofQuotient (negative : Bool) (num den : Nat) : Binary64 :=
  if num = 0 then zero negative else
  let estimate : Int := (num.log2 : Int) - den.log2 - 52
  let scaled (e : Int) : Nat × Nat := (num * Nat.pow 2 (-e).toNat, den * Nat.pow 2 e.toNat)
  let full := (scaled estimate).1 / (scaled estimate).2 ≥ Nat.pow 2 52
  let exponent := max (if full then estimate else estimate - 1) (-1074)
  let rounded := roundToEven (scaled exponent).1 (scaled exponent).2
  let (mantissa, exponent) :=
    if rounded = Nat.pow 2 53 then (Nat.pow 2 52, exponent + 1) else (rounded, exponent)
  if exponent > 971 then .infinite negative else .finite negative mantissa exponent

/-- The double nearest to a decimal. Decimals of more than 310 places before the point are
infinite and those with 330 zeros after it are zero, whatever their digits. -/
def ofDecimal (d : Decimal) : Binary64 :=
  let magnitude := (digitCount d.digits : Int) + d.exponent
  if d.digits = 0 || magnitude < -330 then zero d.negative
  else if magnitude > 310 then .infinite d.negative
  else
    ofQuotient d.negative (d.digits * Nat.pow 10 d.exponent.toNat)
      (Nat.pow 10 (-d.exponent).toNat)

/-- Whether a number is a zero of either sign. -/
def isZero : Binary64 → Bool
  | .finite _ mantissa _ => mantissa = 0
  | _ => false

/-- The nearest whole number, a half away from zero, kept within a word of 64 bits. What is not a
number becomes zero. -/
def toWord : Binary64 → Nat
  | .nan => 0
  | .infinite negative => if negative then 0 else wordMax
  | .finite negative mantissa exponent =>
    if negative then 0
    else
      let scale := Nat.pow 2 (-exponent).toNat
      min wordMax ((2 * mantissa * Nat.pow 2 exponent.toNat + scale) / (2 * scale))

end Binary64

end Wiring
