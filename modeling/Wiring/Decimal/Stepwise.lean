import Wiring.Decimal.Binary64

/-!
# Decimals rounded in steps

A decimal may be turned into a double with no more than one word of its digits: the word is rounded
to a double, and so is the power of ten, and their product or quotient is rounded once more. The
result can be a few places beside the nearest double.

* `leadingWord`: the leading digits that fit in a word;
* `Decimal.ofLeading`: the decimal of these digits;
* `Binary64.scale`, `Binary64.powerOfTen`: products and quotients of doubles;
* `Binary64.ofDecimalInSteps`: the double of a decimal, rounded in steps.
-/

namespace Wiring

/-- Appends the leading digits to the number `n` as long as it fits in a word, and leaves the
others. -/
def leadingWord (n : Nat) : List Char → Nat × List Char
  | [] => (n, [])
  | c :: cs =>
    let next := 10 * n + (c.toNat - '0'.toNat)
    if next ≤ wordMax then leadingWord next cs else (n, c :: cs)

/-- The leading digits fit in a word. -/
theorem leadingWord_le {n : Nat} (h : n ≤ wordMax) (cs : List Char) :
    (leadingWord n cs).1 ≤ wordMax := by
  induction cs generalizing n with
  | nil => exact h
  | cons c cs ih =>
    unfold leadingWord
    dsimp only
    split
    case isTrue next => exact ih next
    case isFalse => exact h

/-- The decimal of the leading digits before and after the point that fit in a word, times a power
of ten. A digit before the point that does not fit still counts as a place. -/
def Decimal.ofLeading (negative : Bool) (whole fraction : List Char) (exponent : Int) : Decimal :=
  let (start, places) := leadingWord 0 whole
  let (digits, dropped) := leadingWord start fraction
  ⟨negative, digits, exponent + places.length - (fraction.length - dropped.length : Nat)⟩

namespace Binary64

/-- A finite number times `num / den`, rounded to the nearest double. -/
def scale (num den : Nat) : Binary64 → Binary64
  | .finite negative mantissa exponent =>
    ofQuotient negative (mantissa * num * Nat.pow 2 exponent.toNat)
      (den * Nat.pow 2 (-exponent).toNat)
  | x => x

/-- The double nearest to `10 ^ n`, which is a whole number. -/
def powerOfTen (n : Nat) : Nat :=
  let unit := Nat.pow 2 ((Nat.pow 10 n).log2 - 52)
  roundToEven (Nat.pow 10 n) unit * unit

/-- The places after the first one of the greatest power of ten among the doubles. -/
def greatestPower : Nat := 308

/-- The double of a decimal, rounded in steps: the digits, the power of ten, and the product or the
quotient of the two. A decimal beyond the reach of one power is divided by the greatest one first,
and what no two powers reach is zero. -/
def ofDecimalInSteps (d : Decimal) : Binary64 :=
  let digits := ofQuotient d.negative d.digits 1
  let places := d.exponent.natAbs
  if d.digits = 0 then digits
  else if 0 ≤ d.exponent then
    if places ≤ greatestPower then digits.scale (powerOfTen places) 1 else .infinite d.negative
  else if places ≤ greatestPower then digits.scale 1 (powerOfTen places)
  else if places ≤ 2 * greatestPower then
    (digits.scale 1 (powerOfTen greatestPower)).scale 1 (powerOfTen (places - greatestPower))
  else zero d.negative

end Binary64

end Wiring
