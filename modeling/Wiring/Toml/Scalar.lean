import Wiring.Decimal.Binary64
import Wiring.Text.Segments
import Wiring.Toml.Document

/-!
# Plain values in TOML

Truth values, numbers and dates without quotes.

* `digits?`, `integer?`, `float?`: numbers, where underscores may stand between digits;
* `splitWord`, `scalar?`: a word, and its value.
-/

namespace Wiring.Toml

/-! ## Numbers -/

/-- The digits of a run in which single underscores may stand between two digits. -/
def digits? (isDigit : Char → Bool) (cs : List Char) : Option (List Char) :=
  let runs := Text.splitOn '_' cs
  if runs.all fun run => !run.isEmpty && run.all isDigit then some runs.flatten else none

/-- The digits of a whole number without a sign. It has no leading zero. -/
def wholeDigits? (cs : List Char) : Option (List Char) :=
  if cs.head? = some '0' ∧ cs ≠ ['0'] then none else digits? Char.isDigit cs

/-- A sign, if there is one, and what follows it. -/
def splitSign : List Char → Bool × List Char
  | '-' :: cs => (true, cs)
  | '+' :: cs => (false, cs)
  | cs => (false, cs)

/-- The value of a digit in a base up to sixteen. -/
def digitValue (c : Char) : Nat :=
  if c.isDigit then c.toNat - '0'.toNat else c.toLower.toNat - 'a'.toNat + 10

/-- Whether a character is a digit in a base up to sixteen. -/
def isDigitOf (base : Nat) (c : Char) : Bool :=
  (c.isDigit || ('a' ≤ c.toLower && c.toLower ≤ 'f')) && digitValue c < base

/-- The number with the given digits in a base. -/
def basedInteger? (base : Nat) (cs : List Char) : Option Int :=
  (digits? (isDigitOf base) cs).map (·.foldl (fun n c => base * n + digitValue c) 0)

/-- A whole number in a word of 64 bits with a sign. -/
def integer? (cs : List Char) : Option Int :=
  let value := match cs with
    | '0' :: 'x' :: digits => basedInteger? 16 digits
    | '0' :: 'o' :: digits => basedInteger? 8 digits
    | '0' :: 'b' :: digits => basedInteger? 2 digits
    | _ =>
      let (negative, digits) := splitSign cs
      (wholeDigits? digits).map fun digits =>
        if negative then -(digitsValue digits : Int) else digitsValue digits
  value.filter inSignedWord

/-- An exponent with its sign. -/
def exponent? (cs : List Char) : Option Int :=
  let (negative, digits) := splitSign cs
  (digits? Char.isDigit digits).map fun digits =>
    if negative then -(digitsValue digits : Int) else digitsValue digits

/-- Whether a character starts an exponent. -/
def isExponentMark (c : Char) : Bool := c = 'e' || c = 'E'

/-- The whole part and the fraction of a decimal, by the point between them. -/
def mantissa? (cs : List Char) : Option (List Char × List Char) :=
  match Text.splitOn '.' cs with
  | [whole] => (wholeDigits? whole).map (·, [])
  | [whole, fraction] => do
    return (← wholeDigits? whole, ← digits? Char.isDigit fraction)
  | _ => none

/-- A decimal: a whole part, and a fraction or an exponent or both. -/
def decimal? (cs : List Char) : Option Decimal :=
  let (negative, cs) := splitSign cs
  let mantissa := cs.takeWhile (!isExponentMark ·)
  match cs.dropWhile (!isExponentMark ·) with
  | [] =>
    if mantissa.contains '.' then
      (mantissa? mantissa).map fun (whole, fraction) => .ofParts negative whole fraction 0
    else none
  | _ :: digits => do
    let (whole, fraction) ← mantissa? mantissa
    return .ofParts negative whole fraction (← exponent? digits)

/-- A double: a special number, or a decimal that is not too great. -/
def float? (cs : List Char) : Option Binary64 :=
  let (negative, word) := splitSign cs
  if word = ['i', 'n', 'f'] then some (.infinite negative)
  else if word = ['n', 'a', 'n'] then some .nan
  else ((decimal? cs).map .ofDecimal).filter (· ≠ .infinite false)

/-! ## Words -/

/-- Whether a character may stand in a plain value. -/
def inWord (c : Char) : Bool :=
  c.isAlphanum || c = '+' || c = '-' || c = '_' || c = '.' || c = ':'

/-- A word at the start of a text, and what follows it. A date and a time with one blank between
them are one word. -/
def splitWord (cs : List Char) : List Char × List Char :=
  let word := cs.takeWhile inWord
  match cs.dropWhile inWord with
  | ' ' :: c :: rest =>
    if (date? word).any (·.2.isEmpty) && c.isDigit then
      (word ++ ' ' :: (c :: rest).takeWhile inWord, (c :: rest).dropWhile inWord)
    else (word, ' ' :: c :: rest)
  | rest => (word, rest)

/-- The value of a word. -/
def scalar? (word : List Char) : Option Node :=
  if word = ['t', 'r', 'u', 'e'] then some (.leaf (.bool true))
  else if word = ['f', 'a', 'l', 's', 'e'] then some (.leaf (.bool false))
  else
    match integer? word with
    | some n => some (.leaf (.int n))
    | none =>
      match float? word with
      | some x => some (.leaf (.float x))
      | none => (dateTime? word).map .date

end Wiring.Toml
