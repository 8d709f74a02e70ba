import Wiring.Json.Value

/-!
# Records in JSON

How structures are read from documents. A structure is an object whose unknown members are passed
over and whose known keys stand at most once, or an array of its fields in order. Every array and
object that is read counts against a bound on nesting; what is passed over does not.

* `Record`, `record?`: the fields that a document gives;
* `Record.required?`, `Record.withDefault?`: one field;
* `text?`, `bool?`, `listOf?`, `variant?`: the values of fields.
-/

namespace Wiring.Json

/-- The fields of a structure that a document gives, by name. -/
abbrev Record := List (String × Json)

/-- The known members of an object, if all keys are proper texts and no known key is repeated. -/
def ofMembers? (fields : List String) (members : List (Quoted × Json)) : Option Record := do
  let named ← members.mapM fun member => member.1.map (·, member.2)
  let known := named.filter (fields.contains ·.1)
  if (known.map (·.1)).Nodup then some known else none

/-- The fields of an object, or those of an array that has no more items than there are fields. -/
def record? (fields : List String) : Json → Option Record
  | .object members => ofMembers? fields members
  | .array items => if items.length ≤ fields.length then some (fields.zip items) else none
  | _ => none

namespace Record

variable {α : Type}

/-- A field that has to be there. -/
def required? (record : Record) (field : String) (read : Json → Option α) : Option α :=
  (record.lookup field).bind read

/-- A field that has a value of its own if it is missing. -/
def withDefault? (record : Record) (field : String) (default : α) (read : Json → Option α) :
    Option α :=
  match record.lookup field with
  | none => some default
  | some value => read value

end Record

variable {α : Type}

/-- The text that a value is. -/
def text? : Json → Option String
  | .string text => text
  | _ => none

/-- The truth value that a value is. -/
def bool? : Json → Option Bool
  | .bool b => some b
  | _ => none

/-- The whole number that a value is. -/
def int? : Json → Option Int
  | .number n => n.toInt?
  | _ => none

/-- The items of an array, each read within one level less. -/
def listOf? (read : Nat → Json → Option α) : Nat → Json → Option (List α)
  | depth + 1, .array items => items.mapM (read depth)
  | _, _ => none

/-- The name of a variant without content: a text, or an object with that key and null. -/
def variant? : Nat → Json → Option String
  | _, .string name => name
  | _ + 1, .object [(name, .null)] => name
  | _, _ => none

/-- A text, or nothing for null. -/
def optionalText? : Json → Option (Option String)
  | .null => some none
  | value => (text? value).map some

end Wiring.Json
