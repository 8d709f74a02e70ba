import Wiring.Corpus.Decoder
import Wiring.Settings.Reading

/-!
# Settings in documents

The form of settings that are written as JSON, with exact types: nothing is converted.

* `jsonForm`: JSON values with a bound on their nesting;
* `Schema.ofJson?`, `Suffixes.ofJson?`, `ScopePolicy.ofJson?`, `Settings.ofJson?`.
-/

namespace Wiring

open Json

/-- A number of tasks: a whole number in a word of 64 bits. -/
def taskCount? (json : Json) : Option Nat :=
  ((int? json).filter fun n => 0 ≤ n && n ≤ (wordMax : Int)).map Int.toNat

/-- JSON values, of which only a number of levels may be nested. -/
def jsonForm : Form (Nat × Json) where
  fields? names value :=
    if value.1 = 0 then none
    else (record? names value.2).map (·.map fun field => (field.1, value.1 - 1, field.2))
  items? value := listOf? (fun depth item => some (depth, item)) value.1 value.2
  text? value := text? value.2
  bool? value := bool? value.2
  count? value := taskCount? value.2
  choice? names value := (variant? value.1 value.2).filter names.contains

/-- A schema. -/
def Schema.ofJson? (depth : Nat) (json : Json) : Option Schema := jsonForm.schema? (depth, json)

/-- Suffixes. -/
def Suffixes.ofJson? (depth : Nat) (json : Json) : Option Suffixes :=
  jsonForm.suffixes? (depth, json)

/-- A policy. -/
def ScopePolicy.ofJson? (depth : Nat) (json : Json) : Option ScopePolicy :=
  jsonForm.scopePolicy? (depth, json)

/-- Settings. -/
def Settings.ofJson? (depth : Nat) (json : Json) : Option Settings :=
  jsonForm.settings? (depth, json)

end Wiring
