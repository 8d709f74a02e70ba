import Wiring.Decimal.Stepwise

/-!
# JSON values

A document as a tree. Nothing that a reader may still have to judge is lost: numbers keep their
spelling, objects keep repeated keys and the order of their members, and a quoted text that leaves
half of a surrogate pair alone is told apart from every proper text.

* `Numeral`, `Numeral.toInt?`, `Numeral.toBinary64`: numbers;
* `Quoted`: what a quoted text denotes;
* `Json`: the values;
* `Json.kept`: the values that stand within a bound on nesting and denote something.
-/

namespace Wiring

/-- A number as it is written: sign, whole part, the digits after the point, and the exponent. -/
structure Numeral where
  negative : Bool
  whole : Nat
  fraction : List Char
  exponent : Option Int
  deriving DecidableEq

namespace Numeral

/-- The numeral of a whole number. -/
def ofInt (n : Int) : Numeral := ⟨n < 0, n.natAbs, [], none⟩

/-- The whole number that a numeral denotes. A fraction, an exponent or a negative zero makes it
something else. -/
def toInt? (n : Numeral) : Option Int :=
  if !n.fraction.isEmpty || n.exponent.isSome || (n.negative && n.whole = 0) then none
  else if n.negative then some (-n.whole) else some n.whole

theorem toInt?_ofInt (n : Int) : (ofInt n).toInt? = some n := by
  by_cases h : n < 0
  · have whole : n.natAbs ≠ 0 := by omega
    have value : -(n.natAbs : Int) = n := by omega
    simp only [toInt?, ofInt, List.isEmpty_nil, Option.isSome_none, h, whole, value, Bool.not_true,
      decide_true, decide_false, Bool.and_false, Bool.or_false, Bool.false_eq_true, if_false,
      if_true]
  · have value : (n.natAbs : Int) = n := by omega
    simp only [toInt?, ofInt, List.isEmpty_nil, Option.isSome_none, h, value, Bool.not_true,
      decide_false, Bool.false_and, Bool.or_false, Bool.false_eq_true, if_false]

/-- The double of a numeral, made from the leading digits that fit in a word and rounded in
steps. -/
def toBinary64 (n : Numeral) : Binary64 :=
  .ofDecimalInSteps
    (.ofLeading n.negative (Nat.repr n.whole).toList n.fraction (n.exponent.getD 0))

/-- Whether a numeral lies in the range of the doubles. -/
def inRange (n : Numeral) : Bool :=
  match n.toBinary64 with
  | .infinite _ => false
  | _ => true

end Numeral

/-- What a quoted text denotes: a text, or nothing if an escape in it stands for half of a surrogate
pair without the other half. -/
abbrev Quoted := Option String

/-- A JSON value. -/
inductive Json where
  | null
  | bool (value : Bool)
  | number (value : Numeral)
  | string (text : Quoted)
  | array (items : List Json)
  | object (members : List (Quoted × Json))
  deriving BEq, Inhabited

namespace Json

/-- A proper text. -/
def text (s : String) : Json := .string (some s)

/-- A whole number. -/
def int (n : Int) : Json := .number (.ofInt n)

/-- The object with the given members. -/
def ofFields (fields : List (String × Json)) : Json :=
  .object (fields.map fun field => (some field.1, field.2))

/-- The array of the given texts. -/
def texts (items : List String) : Json := .array (items.map .text)

/-- The member of a key, the last one if the key is repeated. -/
def get? (key : String) : Json → Option Json
  | .object members => (members.reverse.find? (·.1 == some key)).map (·.2)
  | _ => none

/-- Whether at most `depth` arrays and objects are nested in a value, every quoted text and key in
it denotes a text, and every number is in the range of the doubles. -/
def kept : Nat → Json → Bool
  | _, .null => true
  | _, .bool _ => true
  | _, .number n => n.inRange
  | _, .string s => s.isSome
  | 0, .array _ => false
  | 0, .object _ => false
  | depth + 1, .array items => items.all (kept depth)
  | depth + 1, .object members => members.all fun member => member.1.isSome && kept depth member.2

end Json

end Wiring
