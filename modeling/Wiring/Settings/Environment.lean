import Wiring.Settings.Value
import Wiring.Text.LowerCase
import Wiring.Text.Segments

/-!
# Settings from the environment

Variables whose names begin with a given word set values. Two underscores in a name stand for a dot,
and the type of a value is guessed from its text.

* `Setting.ofText`: the value that a text stands for;
* `keyOfVariable?`, `environmentSource`: the keys of variables, and the settings they make.
-/

namespace Wiring

/-- The words for numbers that are infinite, or are none. -/
def specialNumber? (negative : Bool) (word : String) : Option Binary64 :=
  if word = "inf" || word = "infinity" then some (.infinite negative)
  else if word = "nan" then some .nan
  else none

/-- The double that a text stands for: a decimal, or the word for a special number in any case,
with an optional sign. -/
def Binary64.ofText? (text : String) : Option Binary64 :=
  match Decimal.ofChars? text.toList with
  | some decimal => some (.ofDecimal decimal)
  | none =>
    match text.toList with
    | '-' :: cs => specialNumber? true (String.ofList (cs.map Char.toLower))
    | '+' :: cs => specialNumber? false (String.ofList (cs.map Char.toLower))
    | cs => specialNumber? false (String.ofList (cs.map Char.toLower))

/-- The whole number in a word of 64 bits with a sign that a text stands for. -/
def wordWithSign? (text : String) : Option Int :=
  (Decimal.signedDigits? text.toList).filter inSignedWord

/-- The value that a text stands for: a truth value, else a whole number, else a double, else the
text itself. -/
def Setting.ofText (text : String) : Setting :=
  if Text.lowerCase text = "true" then .bool true
  else if Text.lowerCase text = "false" then .bool false
  else
    match wordWithSign? text with
    | some n => .int n
    | none =>
      match Binary64.ofText? text with
      | some x => .float x
      | none => .text text

/-- A text with a dot for every two underscores, from its start on. -/
def dotted : List Char → List Char
  | '_' :: '_' :: cs => '.' :: dotted cs
  | c :: cs => c :: dotted cs
  | [] => []

/-- The key that a variable sets: its name without the first word and an underscore, in lower
case. -/
def keyOfVariable? (start name : String) : Option String :=
  (Text.dropStart? (Text.lowerCase (start ++ "_")).toList (Text.lowerCase name).toList).map
    fun cs => String.ofList (dotted cs)

/-- The settings that variables make. -/
def environmentSource (start : String) (vars : List (String × String)) :
    List (String × Setting) :=
  vars.filterMap fun entry =>
    (keyOfVariable? start entry.1).map (·, Setting.ofText entry.2)

end Wiring
