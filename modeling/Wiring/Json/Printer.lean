import Wiring.Json.Value

/-!
# Writing JSON

The one text that is written for a value: no blanks, numbers as they are spelled, and escapes for
quotes, backslashes and control characters only.

* `Numeral.print`, `printQuoted`, `Json.print`.
-/

namespace Wiring

/-- The text of a number. -/
def Numeral.print (n : Numeral) : String :=
  (if n.negative then "-" else "") ++ Nat.repr n.whole ++
    (if n.fraction.isEmpty then "" else "." ++ String.ofList n.fraction) ++
    (match n.exponent with
    | none => ""
    | some e => "e" ++ (if e < 0 then "-" else "") ++ Nat.repr e.natAbs)

namespace Json

/-- A hexadecimal digit in lower case. -/
def hexDigit (n : Nat) : Char := Char.ofNat (if n < 10 then '0'.toNat + n else 'a'.toNat + n - 10)

/-- The characters that are written for one character of a text. -/
def escaped (c : Char) : List Char :=
  if c = '"' then ['\\', '"']
  else if c = '\\' then ['\\', '\\']
  else if c = '\x08' then ['\\', 'b']
  else if c = '\x0c' then ['\\', 'f']
  else if c = '\n' then ['\\', 'n']
  else if c = '\r' then ['\\', 'r']
  else if c = '\t' then ['\\', 't']
  else if c.toNat < 0x20 then
    ['\\', 'u', '0', '0', hexDigit (c.toNat / 16), hexDigit (c.toNat % 16)]
  else [c]

/-- A text between quotes. -/
def printText (s : String) : String :=
  "\"" ++ String.ofList (s.toList.flatMap escaped) ++ "\""

/-- A quoted text. What denotes no text is written as the empty one. -/
def printQuoted (s : Quoted) : String := printText (s.getD "")

mutual

/-- The document of a value. -/
def print : Json → String
  | .null => "null"
  | .bool true => "true"
  | .bool false => "false"
  | .number n => n.print
  | .string s => printQuoted s
  | .array items => "[" ++ ",".intercalate (printItems items) ++ "]"
  | .object members => "\x7b" ++ ",".intercalate (printMembers members) ++ "\x7d"
  termination_by structural value => value

/-- The documents of the items of an array. -/
def printItems : List Json → List String
  | [] => []
  | item :: items => item.print :: printItems items
  termination_by structural items => items

/-- The members of an object, each a key, a colon and a value. -/
def printMembers : List (Quoted × Json) → List String
  | [] => []
  | (key, value) :: members => (printQuoted key ++ ":" ++ value.print) :: printMembers members
  termination_by structural members => members

end

end Json

end Wiring
