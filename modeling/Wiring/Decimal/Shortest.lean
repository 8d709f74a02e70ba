import Wiring.Decimal.Binary64

/-!
# Shortest decimals

The shortest decimal that is nearest to a double: the fewest digits that read back as the same
number, of those the nearest to it, and the greater one if two are equally near.

* `Binary64.readsBack`: the decimals that round to a double;
* `Binary64.shortest`: the digits and the power of ten;
* `Binary64.text`: positional notation, without an exponent.
-/

namespace Wiring.Binary64

/-- The numbers that round to `mantissa * 2 ^ exponent` reach down and up by the given quarters of
the distance to the next double. The gap below a power of two is half the one above it. -/
def quarters (mantissa : Nat) (exponent : Int) : Nat × Nat :=
  (if mantissa = Nat.pow 2 52 ∧ exponent > -1074 then 1 else 2, 2)

/-- The grid of decimals of step `10 ^ power` and the double on one scale: the double, the step and
a quarter of the distance to the next double, as whole numbers. -/
def onGrid (mantissa : Nat) (exponent power : Int) : Nat × Nat × Nat :=
  let twos := Nat.pow 2 (-exponent).toNat
  let tens := Nat.pow 10 (-power).toNat
  (4 * mantissa * Nat.pow 2 exponent.toNat * tens, 4 * Nat.pow 10 power.toNat * twos,
    Nat.pow 2 exponent.toNat * tens)

/-- Whether `point` steps of the grid round to the double. The ends of the interval do so if the
mantissa is even. -/
def readsBack (mantissa : Nat) (exponent power : Int) (point : Nat) : Bool :=
  let (value, step, quarter) := onGrid mantissa exponent power
  let (below, above) := quarters mantissa exponent
  if mantissa % 2 = 0 then
    value ≤ point * step + below * quarter && point * step ≤ value + above * quarter
  else value < point * step + below * quarter && point * step < value + above * quarter

/-- The point of the grid that reads back and is nearest to the double. -/
def nearest? (mantissa : Nat) (exponent power : Int) : Option Nat :=
  let (value, step, _) := onGrid mantissa exponent power
  let low := value / step
  let hits := readsBack mantissa exponent power
  match hits low, hits (low + 1) with
  | true, true => some (if 2 * (value - low * step) < step then low else low + 1)
  | true, false => some low
  | false, true => some (low + 1)
  | false, false => none

/-- The greatest power of ten that is at most the double, found downwards from an upper bound. -/
def leadingPower (mantissa : Nat) (exponent : Int) : Nat → Int → Int
  | 0, power => power
  | fuel + 1, power =>
    let (value, step, _) := onGrid mantissa exponent power
    if step ≤ value then power else leadingPower mantissa exponent fuel (power - 1)

/-- The first hit on the grids of more and more digits. -/
def search (mantissa : Nat) (exponent : Int) : Nat → Int → Nat × Int
  | 0, power => ((onGrid mantissa exponent power).1 / (onGrid mantissa exponent power).2.1, power)
  | fuel + 1, power =>
    match nearest? mantissa exponent power with
    | some point => (point, power)
    | none => search mantissa exponent fuel (power - 1)

/-- The shortest decimal of a positive double, as digits and a power of ten. -/
def shortest (mantissa : Nat) (exponent : Int) : Nat × Int :=
  let bits : Int := (mantissa.log2 : Int) + 1 + exponent
  let bound : Int := if bits ≥ 0 then bits * 31 / 100 + 1 else bits * 30 / 100 + 1
  search mantissa exponent 17 (leadingPower mantissa exponent 40 bound)

/-- The number `digits * 10 ^ power` in positional notation, without a point if it is whole. -/
def positional (digits : Nat) (power : Int) : String :=
  if power ≥ 0 then Nat.repr (digits * Nat.pow 10 power.toNat)
  else
    let places := (-power).toNat
    let fraction := (Nat.repr (digits % Nat.pow 10 places)).toList
    let trimmed := (List.replicate (places - fraction.length) '0' ++ fraction).reverse.dropWhile
      (· = '0')
    Nat.repr (digits / Nat.pow 10 places) ++
      (if trimmed.isEmpty then "" else "." ++ String.ofList trimmed.reverse)

/-- The text of a double: the shortest decimal in positional notation. -/
def text : Binary64 → String
  | .nan => "NaN"
  | .infinite negative => if negative then "-inf" else "inf"
  | .finite negative mantissa exponent =>
    (if negative then "-" else "") ++
      (if mantissa = 0 then "0"
       else positional (shortest mantissa exponent).1 (shortest mantissa exponent).2)

end Wiring.Binary64
