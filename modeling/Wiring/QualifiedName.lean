import Wiring.Text.Identifier
import Wiring.Text.Segments

/-!
# Qualified names

Names of classes, with dots between their segments. A name is any text; whether it is well-formed is
asked where it matters.

* `QualifiedName`, ordered by its text;
* `QualifiedName.segments`, `shortName`, `parent?`: the parts of a name;
* `QualifiedName.isValid`: every segment is an identifier.
-/

namespace Wiring

/-- A name with dots between its segments. -/
structure QualifiedName where
  text : String
  deriving DecidableEq, Inhabited

namespace QualifiedName

instance : LT QualifiedName := ⟨fun a b => a.text < b.text⟩

instance (a b : QualifiedName) : Decidable (a < b) := inferInstanceAs (Decidable (a.text < b.text))

theorem lt_trans {a b c : QualifiedName} (hab : a < b) (hbc : b < c) : a < c :=
  String.lt_trans (a := a.text) hab hbc

theorem eq_of_not_lt {a b : QualifiedName} (hab : ¬a < b) (hba : ¬b < a) : a = b := by
  cases a
  cases b
  exact congrArg mk (String.le_antisymm (String.not_lt.1 hba) (String.not_lt.1 hab))

/-- The texts between the dots. -/
def segments (name : QualifiedName) : List String := Text.segments '.' name.text

/-- The text after the last dot. -/
def shortName (name : QualifiedName) : String := name.segments.getLast?.getD name.text

/-- The name before the last dot, if there is a dot. -/
def parent? (name : QualifiedName) : Option QualifiedName :=
  match name.segments with
  | [] | [_] => none
  | parts => some ⟨".".intercalate parts.dropLast⟩

/-- Whether every segment is an identifier. -/
def isValid (name : QualifiedName) : Bool := name.segments.all Text.isIdentifier

end QualifiedName

end Wiring
