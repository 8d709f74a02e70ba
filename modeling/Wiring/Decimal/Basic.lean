/-!
# Decimals

Numbers as they are written in settings and documents: digits, a point and a power of ten.

* `digitsValue`, `digitCount`: runs of decimal digits;
* `wordMax`, `inSignedWord`: the numbers of a word of 64 bits, without a sign and with one;
* `Decimal`: a signed whole number times a power of ten;
* `Decimal.ofParts`: the decimal with given digits before and after the point.
-/

namespace Wiring

/-- The number that a run of decimal digits stands for. -/
def digitsValue (digits : List Char) : Nat :=
  digits.foldl (fun n c => 10 * n + (c.toNat - '0'.toNat)) 0

/-- The number of decimal digits of a number, one for zero. -/
def digitCount (n : Nat) : Nat := (Nat.repr n).length

/-- The greatest number in a word of 64 bits. -/
def wordMax : Nat := Nat.pow 2 64 - 1

/-- Whether a number fits in a word of 64 bits with a sign. -/
def inSignedWord (n : Int) : Bool :=
  let bound : Int := Nat.pow 2 63
  n < bound && -bound ≤ n

/-- The number `digits * 10 ^ exponent`, negated if `negative`. -/
structure Decimal where
  negative : Bool
  digits : Nat
  exponent : Int
  deriving DecidableEq

namespace Decimal

/-- The decimal with the digits `whole` before the point and `fraction` after it, times a power
of ten. -/
def ofParts (negative : Bool) (whole fraction : List Char) (exponent : Int) : Decimal where
  negative := negative
  digits := digitsValue (whole ++ fraction)
  exponent := exponent - fraction.length

/-- A run of digits with an optional sign before it. -/
def signedDigits? : List Char → Option Int
  | '-' :: cs => if !cs.isEmpty && cs.all Char.isDigit then some (-digitsValue cs) else none
  | '+' :: cs => if !cs.isEmpty && cs.all Char.isDigit then some (digitsValue cs) else none
  | cs => if !cs.isEmpty && cs.all Char.isDigit then some (digitsValue cs) else none

/-- The exponent at the end of a decimal: nothing, or `e` and a signed run of digits. -/
def exponent? : List Char → Option Int
  | [] => some 0
  | c :: cs => if c = 'e' || c = 'E' then signedDigits? cs else none

/-- A decimal without its sign: digits, a point that may be missing, digits of which one of the
two runs may be empty, and an exponent. -/
def ofUnsigned? (negative : Bool) (cs : List Char) : Option Decimal :=
  let whole := cs.takeWhile Char.isDigit
  match cs.dropWhile Char.isDigit with
  | '.' :: rest =>
    let fraction := rest.takeWhile Char.isDigit
    if whole.isEmpty && fraction.isEmpty then none
    else (exponent? (rest.dropWhile Char.isDigit)).map (ofParts negative whole fraction)
  | rest => if whole.isEmpty then none else (exponent? rest).map (ofParts negative whole [])

/-- The decimal a text stands for, with an optional sign. -/
def ofChars? : List Char → Option Decimal
  | '-' :: cs => ofUnsigned? true cs
  | '+' :: cs => ofUnsigned? false cs
  | cs => ofUnsigned? false cs

end Decimal

end Wiring
