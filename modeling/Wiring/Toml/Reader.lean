import Wiring.Toml.Document
import Wiring.Toml.Quoted
import Wiring.Toml.Scalar

/-!
# Reading TOML

A document is a list of lines: headers, and keys with their values.

* `readPath?`: a key, with dots between its parts;
* `readValue?`: a value, with arrays and tables in braces;
* `readLine?`, `read?`: a line, and the entries of a document.
-/

namespace Wiring.Toml

/-- The number of arrays and tables in braces that may be nested, and of parts of a key. -/
def nestingLimit : Nat := 79

/-- What follows blanks. -/
def skipBlanks (cs : List Char) : List Char := cs.dropWhile isBlank

/-- What follows a comment, if there is one. -/
def skipComment : List Char → List Char
  | '#' :: cs => cs.dropWhile isTextChar
  | cs => cs

/-- What follows the end of a line, which may be that of the document, with blanks and a comment
before it. -/
def lineEnd? (cs : List Char) : Option (List Char) :=
  match skipComment (skipBlanks cs) with
  | [] => some []
  | rest => newline? rest

/-- What follows blanks, line ends and comments, within a number of lines. -/
def skipLinesWithin : Nat → List Char → List Char
  | fuel + 1, cs =>
    match newline? (skipComment (skipBlanks cs)) with
    | some rest => skipLinesWithin fuel rest
    | none => skipBlanks cs
  | 0, cs => cs

/-- What follows blanks, line ends and comments. -/
def skipLines (cs : List Char) : List Char := skipLinesWithin (cs.length + 1) cs

/-! ## Keys -/

/-- Whether a character may stand in a key without quotes. -/
def inBareKey (c : Char) : Bool := c.isAlphanum || c = '_' || c = '-'

/-- A part of a key: a quoted text on one line, or a word. -/
def readKey? : List Char → Option (String × List Char)
  | '"' :: cs => lineText? '"' cs
  | '\'' :: cs => lineText? '\'' cs
  | cs =>
    if (cs.takeWhile inBareKey).isEmpty then none
    else some (String.ofList (cs.takeWhile inBareKey), cs.dropWhile inBareKey)

/-- Read a key of at most so many parts, with blanks around each of them. -/
def readParts? : Nat → List Char → Option (List String × List Char)
  | 0, _ => none
  | fuel + 1, cs => do
    let (part, rest) ← readKey? (skipBlanks cs)
    match skipBlanks rest with
    | '.' :: rest =>
      let (parts, rest) ← readParts? fuel rest
      return (part :: parts, rest)
    | rest => return ([part], rest)

/-- A key: the parts before the last one, the last one, and what follows. -/
def readPath? (cs : List Char) : Option (List String × String × List Char) := do
  let (parts, rest) ← readParts? nestingLimit cs
  return (parts.dropLast, ← parts.getLast?, rest)

/-! ## Values -/

/-- A quoted text after its first quote. Three quotes start a text of several lines. -/
def readText? (quote : Char) : List Char → Option (String × List Char)
  | c :: d :: cs =>
    if c = quote ∧ d = quote then blockText? quote cs else lineText? quote (c :: d :: cs)
  | cs => lineText? quote cs

/-- A plain value, and what follows it. -/
def readScalar? (cs : List Char) : Option (Node × List Char) :=
  let (word, rest) := splitWord cs
  (scalar? word).map (·, rest)

mutual

/-- Read a value within a number of steps and of levels that may be nested. -/
def readValueWithin? : Nat → Nat → List Char → Option (Node × List Char)
  | 0, _, _ => none
  | fuel + 1, depth, c :: cs =>
    if c = '"' ∨ c = '\'' then (readText? c cs).map fun (text, rest) => (.leaf (.text text), rest)
    else if c = '[' then
      match depth with
      | 0 => none
      | depth + 1 => readItems? fuel depth [] (skipLines cs)
    else if c = '\x7b' then
      match depth, skipBlanks cs with
      | 0, _ => none
      | _ + 1, '\x7d' :: rest => some (.braces [], rest)
      | depth + 1, cs => readFields? fuel depth [] cs
    else readScalar? (c :: cs)
  | _ + 1, _, [] => none

/-- Read the rest of an array where an item may start. The items read so far are in reverse order.
-/
def readItems? : Nat → Nat → List Node → List Char → Option (Node × List Char)
  | _, _, items, ']' :: cs => some (.array items.reverse, cs)
  | 0, _, _, _ => none
  | fuel + 1, depth, items, cs => do
    let (item, rest) ← readValueWithin? fuel depth cs
    match skipLines rest with
    | ',' :: rest => readItems? fuel depth (item :: items) (skipLines rest)
    | ']' :: rest => return (.array (item :: items).reverse, rest)
    | _ => none

/-- Read the rest of a table in braces where a key has to start. -/
def readFields? : Nat → Nat → Entries → List Char → Option (Node × List Char)
  | 0, _, _, _ => none
  | fuel + 1, depth, entries, cs => do
    let (path, key, rest) ← readPath? cs
    let (value, rest) ← readValueWithin? fuel depth (skipBlanks (← after? '=' rest))
    let entries ← assign? path key value entries
    match skipBlanks rest with
    | ',' :: rest => readFields? fuel depth entries rest
    | '\x7d' :: rest => return (.braces entries, rest)
    | _ => none

end

/-- A value, and what follows it. -/
def readValue? (cs : List Char) : Option (Node × List Char) :=
  readValueWithin? (2 * cs.length + 2) nestingLimit cs

/-! ## Lines -/

/-- A document that is read line by line: the path of the last header, and all entries so far. -/
structure Progress where
  header : List String := []
  root : Entries := []

/-- Read a header after its first bracket. -/
def readHeader? (progress : Progress) : List Char → Option (Progress × List Char)
  | '[' :: cs => do
    let (path, key, rest) ← readPath? cs
    let rest ← lineEnd? (← after? ']' (← after? ']' rest))
    return (⟨path ++ [key], ← openItem? path key progress.root⟩, rest)
  | cs => do
    let (path, key, rest) ← readPath? cs
    let rest ← lineEnd? (← after? ']' rest)
    return (⟨path ++ [key], ← openTable? path key progress.root⟩, rest)

/-- Read a key and its value. -/
def readPair? (progress : Progress) (cs : List Char) : Option (Progress × List Char) := do
  let (path, key, rest) ← readPath? cs
  let (value, rest) ← readValue? (skipBlanks (← after? '=' rest))
  let rest ← lineEnd? rest
  return ({ progress with root := ← assignBelow? progress.header path key value progress.root },
    rest)

/-- Read a line: nothing, a header, or a key and its value. -/
def readLine? (progress : Progress) (cs : List Char) : Option (Progress × List Char) :=
  match lineEnd? cs with
  | some rest => some (progress, rest)
  | none =>
    match skipBlanks cs with
    | '[' :: rest => readHeader? progress rest
    | rest => readPair? progress rest

/-- Read lines within a number of steps. -/
def readLines? : Nat → Progress → List Char → Option Progress
  | _, progress, [] => some progress
  | 0, _, _ => none
  | fuel + 1, progress, cs => do
    let (progress, rest) ← readLine? progress cs
    readLines? fuel progress rest

/-- The entries of a document, which must be a table. A byte order mark at its start is passed
over. -/
def read? (document : String) : Option (List (String × Setting)) :=
  let cs := match document.toList with
    | '\ufeff' :: cs => cs
    | cs => cs
  match (readLines? (cs.length + 1) {} cs).bind (tableToSetting? ·.root) with
  | some (.table entries) => some entries
  | _ => none

end Wiring.Toml
