import Wiring.Json.Token

/-!
# Quoted texts in TOML

Texts between quotes, on one line or on several. Between `"` a backslash starts an escape, between
`'` it stands for itself.

* `lineText?`: a text on one line;
* `blockText?`: a text between three quotes, where line ends count as one character.
-/

namespace Wiring.Toml

/-- Whether a character is a blank. -/
def isBlank (c : Char) : Bool := c = ' ' || c = '\t'

/-- Whether a character may stand in a text or a comment: a tab or no control character. -/
def isTextChar (c : Char) : Bool := c = '\t' || (0x20 ≤ c.toNat && c.toNat ≠ 0x7F)

/-- The character of a short escape. -/
def escape? : Char → Option Char
  | '"' => some '"'
  | '\\' => some '\\'
  | 'b' => some '\x08'
  | 'f' => some '\x0c'
  | 'n' => some '\n'
  | 'r' => some '\r'
  | 't' => some '\t'
  | _ => none

/-- The character whose code has the given hexadecimal digits. -/
def codeChar? (digits : List Char) : Option Char := do
  let values ← digits.mapM Json.hexValue?
  let code := values.foldl (fun n digit => 16 * n + digit) 0
  if code.isValidChar then some (Char.ofNat code) else none

/-- The character of an escape after its backslash, and what follows it. -/
def readEscape? : List Char → Option (Char × List Char)
  | 'u' :: a :: b :: c :: d :: rest => (codeChar? [a, b, c, d]).map (·, rest)
  | 'U' :: a :: b :: c :: d :: e :: f :: g :: h :: rest =>
    (codeChar? [a, b, c, d, e, f, g, h]).map (·, rest)
  | c :: rest => (escape? c).map (·, rest)
  | [] => none

/-- Read a text on one line after its first quote, within a number of steps. The characters read so
far are in reverse order. -/
def lineTextWithin? (quote : Char) : Nat → List Char → List Char → Option (String × List Char)
  | fuel + 1, read, c :: cs =>
    if c = quote then some (String.ofList read.reverse, cs)
    else if c = '\\' ∧ quote = '"' then
      (readEscape? cs).bind fun (e, rest) => lineTextWithin? quote fuel (e :: read) rest
    else if isTextChar c then lineTextWithin? quote fuel (c :: read) cs
    else none
  | _, _, _ => none

/-- A text on one line after its first quote, and what follows its last one. -/
def lineText? (quote : Char) (cs : List Char) : Option (String × List Char) :=
  lineTextWithin? quote cs.length [] cs

/-- What follows the end of a line. -/
def newline? : List Char → Option (List Char)
  | '\n' :: cs => some cs
  | '\r' :: '\n' :: cs => some cs
  | _ => none

/-- What follows blanks and line ends. -/
def skipSpace : List Char → List Char
  | ' ' :: cs => skipSpace cs
  | '\t' :: cs => skipSpace cs
  | '\n' :: cs => skipSpace cs
  | '\r' :: '\n' :: cs => skipSpace cs
  | cs => cs

/-- What follows three quotes, where up to two more quotes before them belong to the text: how many
do, and the rest. -/
def closing? (quote : Char) (cs : List Char) : Option (Nat × List Char) :=
  let quotes := (cs.takeWhile (· = quote)).length
  if quotes < 3 then none else some (min (quotes - 3) 2, cs.drop (min quotes 5))

/-- Read a text between three quotes after the first three, within a number of steps. A backslash at
the end of a line takes away the line end and all blanks and line ends after it. -/
def blockTextWithin? (quote : Char) : Nat → List Char → List Char → Option (String × List Char)
  | fuel + 1, read, c :: cs =>
    match closing? quote (c :: cs) with
    | some (extra, rest) =>
      some (String.ofList (read.reverse ++ List.replicate extra quote), rest)
    | none =>
      if c = '\\' ∧ quote = '"' then
        match newline? (cs.dropWhile isBlank) with
        | some rest => blockTextWithin? quote fuel read (skipSpace rest)
        | none =>
          (readEscape? cs).bind fun (e, rest) => blockTextWithin? quote fuel (e :: read) rest
      else
        match newline? (c :: cs) with
        | some rest => blockTextWithin? quote fuel ('\n' :: read) rest
        | none => if isTextChar c then blockTextWithin? quote fuel (c :: read) cs else none
  | _, _, _ => none

/-- A text between three quotes after the first three, and what follows the last ones. A line end at
its start is left out. -/
def blockText? (quote : Char) (cs : List Char) : Option (String × List Char) :=
  blockTextWithin? quote (cs.length + 1) [] ((newline? cs).getD cs)

end Wiring.Toml
