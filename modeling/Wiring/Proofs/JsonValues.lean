import Wiring.Json.Reader
import Wiring.Proofs.JsonTokens

/-!
# Reading printed values

Tokens are joined to the value that they were made of, so a document that was written for a value is
read as the value.

* `Json.Joins`: lists of tokens and the values they are joined to;
* `joins_items`, `joins_members`: the parts of arrays and objects;
* **`read?_print`**: reading what was written.
-/

namespace Wiring.Json

/-- Tokens are joined to a value wherever a value may start. -/
def Joins (tokens : List Token) (value : Json) : Prop :=
  ∀ mayClose stack, tokens.foldlM Parse.step (.expectValue mayClose stack) =
    some (.complete value stack)

variable {tokens : List Token} {token : Token} {stack : List Frame}

/-- Where a value may start, all tokens but a closing bracket start one. -/
theorem step_expectValue (h : token ≠ .closeArray) (mayClose : Bool) :
    Parse.step (.expectValue mayClose stack) token = Parse.startValue stack token := by
  unfold Parse.step
  split <;> simp_all

theorem joins_plain {value : Json} (h : Parse.plain? token = some value) :
    Joins [token] value := by
  intro mayClose stack
  have hclose : token ≠ .closeArray := by
    rintro rfl
    cases h
  have hstart : Parse.startValue stack token = some (.complete value stack) := by
    cases token <;> simp_all [Parse.startValue, Parse.plain?]
  rw [List.foldlM_cons, step_expectValue hclose, hstart]
  rfl

/-- The items of an array that is open, up to its end. -/
theorem joins_items {item : Json} {items : List Json}
    (h : ∀ i ∈ item :: items, Joins i.tokens i) (read : List Json) (mayClose : Bool) :
    ([Token.comma].intercalate ((item :: items).map Json.tokens) ++ [Token.closeArray]).foldlM
        Parse.step (.expectValue mayClose (.array read :: stack)) =
      some (.complete (.array (read.reverse ++ item :: items)) stack) := by
  induction items generalizing item read mayClose with
  | nil =>
    have hitem := h item List.mem_cons_self
    rw [List.map_cons, List.map_nil, List.intercalate_singleton, List.foldlM_append, hitem]
    simp [Parse.step, Parse.afterValue]
  | cons next items ih =>
    obtain ⟨hitem, hitems⟩ := List.forall_mem_cons.1 h
    rw [List.map_cons, List.map_cons, List.intercalate_cons_cons, List.append_assoc,
      List.append_assoc, List.singleton_append, List.foldlM_append, hitem]
    change List.foldlM Parse.step (.expectValue false (.array (item :: read) :: stack)) _ = _
    rw [← List.map_cons, ih hitems (item :: read) false]
    simp

/-- The tokens of a member of an object. -/
def fieldTokens (field : String × Json) : List Token :=
  .string (some field.1) :: .colon :: field.2.tokens

theorem step_expectKey (mayClose : Bool) (read : List (Quoted × Json)) (key : Quoted) :
    Parse.step (.expectKey mayClose read stack) (.string key) =
      some (.expectColon read key stack) := by
  cases mayClose <;> cases read <;> rfl

theorem foldlM_fieldTokens {field : String × Json} (h : Joins field.2.tokens field.2)
    (mayClose : Bool) (read : List (Quoted × Json)) :
    (fieldTokens field).foldlM Parse.step (.expectKey mayClose read stack) =
      some (.complete field.2 (.object read (some field.1) :: stack)) := by
  rw [fieldTokens, List.foldlM_cons, step_expectKey]
  exact h false (.object read (some field.1) :: stack)

/-- The members of an object that is open, up to its end. -/
theorem joins_members {field : String × Json} {fields : List (String × Json)}
    (h : ∀ f ∈ field :: fields, Joins f.2.tokens f.2) (read : List (Quoted × Json))
    (mayClose : Bool) :
    ([Token.comma].intercalate ((field :: fields).map fieldTokens) ++ [Token.closeObject]).foldlM
        Parse.step (.expectKey mayClose read stack) =
      some (.complete (.object (read.reverse ++
        (field :: fields).map fun f => (some f.1, f.2))) stack) := by
  induction fields generalizing field read mayClose with
  | nil =>
    have hfield := h field List.mem_cons_self
    rw [List.map_cons, List.map_nil, List.intercalate_singleton, List.foldlM_append,
      foldlM_fieldTokens hfield]
    simp [Parse.step, Parse.afterValue]
  | cons next fields ih =>
    obtain ⟨hfield, hfields⟩ := List.forall_mem_cons.1 h
    rw [List.map_cons, List.map_cons, List.intercalate_cons_cons, List.append_assoc,
      List.append_assoc, List.singleton_append, List.foldlM_append, foldlM_fieldTokens hfield]
    change List.foldlM Parse.step (.expectKey false ((some field.1, field.2) :: read) stack) _ = _
    rw [← List.map_cons, ih hfields ((some field.1, field.2) :: read) false]
    simp

/-- **The tokens of a value are joined to the value.** -/
theorem joins_tokens {value : Json} (h : Plain value) : Joins value.tokens value := by
  induction h with
  | null | bool | int | text => exact joins_plain rfl
  | array items _ ih =>
    intro mayClose stack
    rw [tokens, itemTokens_eq, List.foldlM_cons, step_expectValue (by simp)]
    change List.foldlM Parse.step (.expectValue true (.array [] :: stack)) _ = _
    cases items with
    | nil => rfl
    | cons item items => exact joins_items ih [] true
  | object fields _ ih =>
    intro mayClose stack
    rw [ofFields, tokens, memberTokens_eq, List.map_map, List.foldlM_cons,
      step_expectValue (by simp)]
    change List.foldlM Parse.step (.expectKey true [] stack) _ = _
    cases fields with
    | nil => rfl
    | cons field fields => exact joins_members ih [] true

/-- **Reading a document that was written gives the value that it was written for.** -/
theorem read?_print {value : Json} (h : Plain value) : read? value.print = some value := by
  rw [read?, tokens?_print h, Option.bind_some, ofTokens?, joins_tokens h]
  rfl

end Wiring.Json
