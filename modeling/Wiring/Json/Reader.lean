import Wiring.Json.Token

/-!
# Reading JSON

The second of the two passes: tokens are joined to values. The values that are still open stand on a
stack, so nesting is bounded by the length of the document only.

* `Frame`, `Parse`, `Parse.step`: the open arrays and objects, and what may follow;
* `ofTokens?`, `read?`: the value of a list of tokens and of a document.
-/

namespace Wiring.Json

/-- An array or an object that is still open, with the parts read so far in reverse order. An
object waits for the value of `key`. -/
inductive Frame where
  | array (items : List Json)
  | object (members : List (Quoted × Json)) (key : Quoted)

/-- What comes next: a value, or the end of an array just opened; a key, or the end of an object
just opened; the colon after a key; or what follows a value. -/
inductive Parse where
  | expectValue (mayClose : Bool) (stack : List Frame)
  | expectKey (mayClose : Bool) (members : List (Quoted × Json)) (stack : List Frame)
  | expectColon (members : List (Quoted × Json)) (key : Quoted) (stack : List Frame)
  | complete (value : Json) (stack : List Frame)

namespace Parse

/-- The value that a token is by itself. -/
def plain? : Token → Option Json
  | .null => some .null
  | .bool b => some (.bool b)
  | .number n => some (.number n)
  | .string s => some (.string s)
  | _ => none

/-- Read a token where a value may start. -/
def startValue (stack : List Frame) : Token → Option Parse
  | .openArray => some (.expectValue true (.array [] :: stack))
  | .openObject => some (.expectKey true [] stack)
  | token => (plain? token).map (.complete · stack)

/-- Read a token after a value. -/
def afterValue (value : Json) : List Frame → Token → Option Parse
  | .array items :: stack, .comma => some (.expectValue false (.array (value :: items) :: stack))
  | .array items :: stack, .closeArray => some (.complete (.array (value :: items).reverse) stack)
  | .object members key :: stack, .comma => some (.expectKey false ((key, value) :: members) stack)
  | .object members key :: stack, .closeObject =>
    some (.complete (.object ((key, value) :: members).reverse) stack)
  | _, _ => none

/-- Read one token. -/
def step : Parse → Token → Option Parse
  | .expectValue true (.array [] :: stack), .closeArray => some (.complete (.array []) stack)
  | .expectValue _ stack, token => startValue stack token
  | .expectKey true [] stack, .closeObject => some (.complete (.object []) stack)
  | .expectKey _ members stack, .string key => some (.expectColon members key stack)
  | .expectKey .., _ => none
  | .expectColon members key stack, .colon =>
    some (.expectValue false (.object members key :: stack))
  | .expectColon .., _ => none
  | .complete value stack, token => afterValue value stack token

/-- The value read, if nothing is open any more. -/
def result? : Parse → Option Json
  | .complete value [] => some value
  | _ => none

end Parse

/-- The value of a list of tokens. -/
def ofTokens? (tokens : List Token) : Option Json :=
  (tokens.foldlM Parse.step (.expectValue false [])).bind Parse.result?

/-- The value of a document, if it is well-formed. -/
def read? (document : String) : Option Json :=
  (tokens? document.toList).bind ofTokens?

end Wiring.Json
