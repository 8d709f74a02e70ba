import Wiring.Decimal.Shortest
import Wiring.Settings.Reading
import Wiring.Settings.Value

/-!
# Settings of mixed types

The form of settings that come from several sources. A value need not have the type that is asked
for: truth values, numbers and their texts stand for each other.

* `Setting.text?`, `Setting.bool?`, `Setting.count?`, `Setting.choice?`: the conversions;
* `layerForm`: the form.
-/

namespace Wiring.Setting

/-- A text: a text itself, or the text of a truth value or a number. -/
def text? : Setting → Option String
  | text value => some value
  | bool value => some (if value then "true" else "false")
  | int value => some (toString value)
  | float value => some value.text
  | _ => none

/-- The words for true. -/
def trueWords : List String := ["true", "on", "yes"]

/-- The words for false. -/
def falseWords : List String := ["false", "off", "no"]

/-- A truth value: a truth value itself, a number that is true unless it is zero, or a word or digit
in a text. -/
def bool? : Setting → Option Bool
  | bool value => some value
  | int value => some (value ≠ 0)
  | float value => some (!value.isZero)
  | text value =>
    let word := Text.lowerCase value
    if word = "1" || trueWords.contains word then some true
    else if word = "0" || falseWords.contains word then some false
    else none
  | _ => none

/-- A run of digits, with a plus sign or without a sign, in a word of 64 bits. -/
def wordOf? (text : String) : Option Nat :=
  let digits := match text.toList with
    | '+' :: cs => cs
    | cs => cs
  if digits.isEmpty || !digits.all Char.isDigit then none
  else (some (digitsValue digits)).filter (· ≤ wordMax)

/-- A whole number in a word of 64 bits: a number that is not negative, the nearest word to a
double, one or zero for a truth value or a word for it, or the digits of a text. -/
def count? : Setting → Option Nat
  | bool value => some (if value then 1 else 0)
  | int value => if value < 0 then none else some value.toNat
  | float value => some value.toWord
  | text value =>
    let word := Text.lowerCase value
    if trueWords.contains word then some 1
    else if falseWords.contains word then some 0
    else wordOf? word
  | _ => none

/-- One of several names in any case: as a text, or as the one key of a table. -/
def choice? (names : List String) : Setting → Option String
  | text value => names.find? fun name => Text.lowerCase name = Text.lowerCase value
  | table [(key, _)] => names.find? fun name => Text.lowerCase name = Text.lowerCase key
  | _ => none

/-- The fields of a structure: the entries of a table, or the items of a list in order. -/
def fields? (names : List String) : Setting → Option (List (String × Setting))
  | table entries => some entries
  | list items => some (names.zip items)
  | _ => none

/-- The items of a list. -/
def items? : Setting → Option (List Setting)
  | list items => some items
  | _ => none

end Setting

/-- Values from several sources. -/
def layerForm : Form Setting where
  fields? := Setting.fields?
  items? := Setting.items?
  text? := Setting.text?
  bool? := Setting.bool?
  count? := Setting.count?
  choice? := Setting.choice?

end Wiring
