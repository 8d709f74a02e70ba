import Wiring.Json.Value

/-!
# JSON tokens

The first of the two passes of the reader. A document is read character by character; every step
changes a small state and may complete a token.

* `Token`: brackets, separators and plain values;
* `Numeral.ofChars?`: the grammar of numbers;
* `joinSurrogates`: a quoted text from its code units;
* `Scan`, `Scan.step`, `tokens?`: the pass.
-/

namespace Wiring.Json

/-- A token: a bracket, a separator, or a value that has no parts. -/
inductive Token where
  | openArray
  | closeArray
  | openObject
  | closeObject
  | comma
  | colon
  | null
  | bool (value : Bool)
  | number (value : Numeral)
  | string (text : Quoted)
  deriving DecidableEq

/-! ## Numbers -/

/-- The exponent after `e` or `E`: an optional sign and digits. -/
def numeralExponent? : List Char → Option (Option Int)
  | [] => some none
  | c :: cs => if c = 'e' || c = 'E' then (Decimal.signedDigits? cs).map some else none

/-- The number after its sign: digits without a leading zero, a point with digits, an exponent. -/
def unsignedNumeral? (negative : Bool) (cs : List Char) : Option Numeral :=
  let whole := cs.takeWhile Char.isDigit
  if whole.isEmpty || (whole.head? = some '0' && whole ≠ ['0']) then none
  else
    match cs.dropWhile Char.isDigit with
    | '.' :: rest =>
      let fraction := rest.takeWhile Char.isDigit
      if fraction.isEmpty then none
      else (numeralExponent? (rest.dropWhile Char.isDigit)).map
        (⟨negative, digitsValue whole, fraction, ·⟩)
    | rest => (numeralExponent? rest).map (⟨negative, digitsValue whole, [], ·⟩)

/-- The number that a run of characters spells. -/
def numeral? : List Char → Option Numeral
  | '-' :: cs => unsignedNumeral? true cs
  | cs => unsignedNumeral? false cs

/-! ## Quoted texts -/

/-- A part of a quoted text: a character, or a code unit between `D800` and `DFFF`. -/
inductive CodeUnit where
  | char (c : Char)
  | surrogate (code : Nat)
  deriving DecidableEq

/-- The unit of a code given by an escape. -/
def CodeUnit.ofCode (code : Nat) : CodeUnit :=
  if 0xD800 ≤ code ∧ code ≤ 0xDFFF then .surrogate code else .char (Char.ofNat code)

/-- The character of a high and a low surrogate. -/
def pairChar (high low : Nat) : Char :=
  Char.ofNat (0x10000 + (high - 0xD800) * 0x400 + (low - 0xDC00))

/-- The characters of a quoted text, if every surrogate in it belongs to a pair. -/
def joinSurrogates : List CodeUnit → Option (List Char)
  | [] => some []
  | .char c :: units => (joinSurrogates units).map (c :: ·)
  | .surrogate high :: .surrogate low :: units =>
    if high < 0xDC00 ∧ 0xDC00 ≤ low then (joinSurrogates units).map (pairChar high low :: ·)
    else none
  | .surrogate _ :: _ => none

/-- The character that follows a backslash in a short escape, and the one it stands for. -/
def shortEscape? : Char → Option Char
  | '"' => some '"'
  | '\\' => some '\\'
  | '/' => some '/'
  | 'b' => some '\x08'
  | 'f' => some '\x0c'
  | 'n' => some '\n'
  | 'r' => some '\r'
  | 't' => some '\t'
  | _ => none

/-- The value of a hexadecimal digit. -/
def hexValue? (c : Char) : Option Nat :=
  if c.isDigit then some (c.toNat - '0'.toNat)
  else if 'a' ≤ c ∧ c ≤ 'f' then some (c.toNat - 'a'.toNat + 10)
  else if 'A' ≤ c ∧ c ≤ 'F' then some (c.toNat - 'A'.toNat + 10)
  else none

/-! ## The pass -/

/-- Where the scan stands: between tokens, in a word or a number, or in a quoted text. The parts
read so far are in reverse order. -/
inductive Mode where
  | between
  | word (read : List Char)
  | numeral (read : List Char)
  | quoted (read : List CodeUnit)
  | escape (read : List CodeUnit)
  | code (read : List CodeUnit) (left value : Nat)

/-- The state of the scan: the mode and the tokens completed, in reverse order. -/
structure Scan where
  mode : Mode := .between
  done : List Token := []

namespace Scan

/-- Whether a character may stand in a number. -/
def inNumeral (c : Char) : Bool :=
  c.isDigit || c = '+' || c = '-' || c = '.' || c = 'e' || c = 'E'

/-- The token of a word. -/
def word? (cs : List Char) : Option Token :=
  if cs = ['n', 'u', 'l', 'l'] then some .null
  else if cs = ['t', 'r', 'u', 'e'] then some (.bool true)
  else if cs = ['f', 'a', 'l', 's', 'e'] then some (.bool false)
  else none

/-- A step between tokens. -/
def start (done : List Token) (c : Char) : Option Scan :=
  match c with
  | ' ' | '\t' | '\n' | '\r' => some ⟨.between, done⟩
  | '[' => some ⟨.between, .openArray :: done⟩
  | ']' => some ⟨.between, .closeArray :: done⟩
  | '{' => some ⟨.between, .openObject :: done⟩
  | '}' => some ⟨.between, .closeObject :: done⟩
  | ',' => some ⟨.between, .comma :: done⟩
  | ':' => some ⟨.between, .colon :: done⟩
  | '"' => some ⟨.quoted [], done⟩
  | _ =>
    if c.isLower then some ⟨.word [c], done⟩
    else if c = '-' || c.isDigit then some ⟨.numeral [c], done⟩
    else none

/-- End a word or a number that may be open. -/
def flush (scan : Scan) : Option (List Token) :=
  match scan.mode with
  | .between => some scan.done
  | .word read => (word? read.reverse).map (· :: scan.done)
  | .numeral read => (numeral? read.reverse).map (.number · :: scan.done)
  | _ => none

/-- Read one character. -/
def step (scan : Scan) (c : Char) : Option Scan :=
  match scan.mode with
  | .between => start scan.done c
  | .word read =>
    if c.isLower then some { scan with mode := .word (c :: read) }
    else scan.flush.bind (start · c)
  | .numeral read =>
    if inNumeral c then some { scan with mode := .numeral (c :: read) }
    else scan.flush.bind (start · c)
  | .quoted read =>
    if c = '"' then
      some ⟨.between, .string ((joinSurrogates read.reverse).map String.ofList) :: scan.done⟩
    else if c = '\\' then some { scan with mode := .escape read }
    else if c.toNat < 0x20 then none
    else some { scan with mode := .quoted (.char c :: read) }
  | .escape read =>
    if c = 'u' then some { scan with mode := .code read 4 0 }
    else (shortEscape? c).map fun e => { scan with mode := .quoted (.char e :: read) }
  | .code read left value =>
    (hexValue? c).map fun digit =>
      let value := 16 * value + digit
      { scan with
        mode := if left ≤ 1 then .quoted (CodeUnit.ofCode value :: read)
          else .code read (left - 1) value }

end Scan

/-- The tokens of a document. -/
def tokens? (cs : List Char) : Option (List Token) :=
  ((cs.foldlM Scan.step {}).bind Scan.flush).map List.reverse

end Wiring.Json
