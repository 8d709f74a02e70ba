import Wiring.Text.Alphabetic

/-!
# Identifiers

* `isIdentifier`: a letter or an underscore, then letters, numbers and underscores.
-/

namespace Wiring.Text

/-- Whether a character may start an identifier. -/
def startsIdentifier (c : Char) : Bool := c = '_' || isAlphabetic c

/-- Whether a character may follow the first one of an identifier. -/
def continuesIdentifier (c : Char) : Bool := c = '_' || isAlphanumeric c

/-- Whether a text is an identifier. -/
def isIdentifier (s : String) : Bool :=
  match s.toList with
  | [] => false
  | c :: cs => startsIdentifier c && cs.all continuesIdentifier

end Wiring.Text
