import Mathlib.Data.List.Nodup
import Mathlib.Logic.Relation
import Wiring.Proofs.JsonRecords

/-!
# Spellings of a corpus

A document can be spelled in more than one way: the keys of an object may stand in any order, a key
with a value of its own may be left out, and a type without arguments may be given by its class
alone. Which keys may be left out depends on what stands at a place, so every place of a document
has a shape.

* `Shape`, `Shape.fields`, `Shape.member`, `Shape.item`: what stands at a place, and at those in it;
* `Edit`, `Respelled`: one change of spelling at any depth, and any number of them;
* `Json.distinctKeys`, `Edit.distinctKeys_iff`: no key is repeated, whatever the spelling.
-/

namespace Wiring

open Json

/-! ## Places -/

/-- What stands at a place of a corpus. A plain value may be anything that has neither a type nor a
key with a value of its own in it. -/
inductive Shape where
  | unit
  | classDeclaration
  | function
  | property
  | annotation
  | argument
  | value
  | enumEntry
  | type
  | typeArguments
  | typeArgument
  | supertypeTable
  | list (item : Shape)
  | name
  | plain
  deriving DecidableEq

/-- A key of an object: what stands there, and the value that it has if it is left out. -/
structure Shape.Field where
  key : String
  shape : Shape
  default? : Option Json := none

namespace Shape

/-- The keys of an object, in the order in which they stand if it is written as an array. -/
def fields : Shape → List Field
  | unit => [⟨"module_name", plain, some (.text "")⟩,
      ⟨"classes", list classDeclaration, some (.array [])⟩,
      ⟨"external_supertypes", supertypeTable, some (.object [])⟩]
  | classDeclaration => [⟨"fq_name", name, none⟩,
      ⟨"package", plain, some (.text "")⟩,
      ⟨"kind", plain, some (.text "class")⟩,
      ⟨"annotations", list annotation, some (.array [])⟩,
      ⟨"supertypes", list name, some (.array [])⟩,
      ⟨"functions", list function, some (.array [])⟩,
      ⟨"properties", list property, some (.array [])⟩,
      ⟨"nested", list classDeclaration, some (.array [])⟩]
  | function => [⟨"name", plain, none⟩, ⟨"return_type", type, none⟩,
      ⟨"annotations", list annotation, some (.array [])⟩]
  | property => [⟨"name", plain, none⟩, ⟨"type", type, none⟩,
      ⟨"annotations", list annotation, some (.array [])⟩]
  | annotation => [⟨"fq_name", name, none⟩,
      ⟨"arguments", list argument, some (.array [])⟩,
      ⟨"meta_annotations", list name, some (.array [])⟩]
  | argument => [⟨"name", plain, some .null⟩, ⟨"value", value, none⟩]
  | value => [⟨"class", name, none⟩, ⟨"string", plain, none⟩, ⟨"int", plain, none⟩,
      ⟨"bool", plain, none⟩, ⟨"enum", enumEntry, none⟩, ⟨"array", list value, none⟩]
  | enumEntry => [⟨"class", name, none⟩, ⟨"entry", plain, none⟩]
  | type => [⟨"class", name, none⟩,
      ⟨"arguments", typeArguments, some (.array [])⟩,
      ⟨"nullable", plain, some (.bool false)⟩]
  | typeArgument => [⟨"star", plain, none⟩, ⟨"type", type, none⟩]
  | typeArguments | supertypeTable | list _ | name | plain => []

/-- What stands at a key of an object. Nothing is known about what stands at an unknown key. -/
def member : Shape → Quoted → Shape
  | supertypeTable, _ => list name
  | shape, some key => ((shape.fields.find? (·.key = key)).map (·.shape)).getD plain
  | _, none => plain

/-- What stands at a place of an array. -/
def item : Shape → Nat → Shape
  | list item, _ => item
  | typeArguments, _ => typeArgument
  | shape, index => (shape.fields[index]?.map (·.shape)).getD plain

end Shape

/-! ## Changes of spelling -/

/-- One change of spelling, at a place or inside of it: members are put in another order, a key that
was left out is written with the value that it has then, or the class of a type is put into an
object of its own. -/
inductive Edit : Shape → Json → Json → Prop
  | reorder {shape members members'} (h : members.Perm members') :
    Edit shape (.object members) (.object members')
  | writeOut {shape : Shape} {field : Shape.Field} {default members} (hfield : field ∈ shape.fields)
    (hdefault : field.default? = some default) (habsent : some field.key ∉ members.map Prod.fst) :
    Edit shape (.object members) (.object ((some field.key, default) :: members))
  | wrap (name : Quoted) : Edit .type (.string name) (.object [(some "class", .string name)])
  | member {shape : Shape} {before key value value' after}
    (h : Edit (shape.member key) value value') :
    Edit shape (.object (before ++ (key, value) :: after))
      (.object (before ++ (key, value') :: after))
  | item {shape : Shape} {before value value' after}
    (h : Edit (shape.item before.length) value value') :
    Edit shape (.array (before ++ value :: after)) (.array (before ++ value' :: after))

/-- Two values differ in their spelling only: changes and their reversals lead from one to the
other. -/
def Respelled (shape : Shape) : Json → Json → Prop := Relation.EqvGen (Edit shape)

/-! ## Repeated keys -/

namespace Json

mutual

/-- Whether no object in a value has two members of one key. -/
def distinctKeys : Json → Bool
  | .array items => itemsDistinct items
  | .object members => (members.filterMap Prod.fst).Nodup && membersDistinct members
  | _ => true
  termination_by structural value => value

/-- Whether no object in the items of an array has two members of one key. -/
def itemsDistinct : List Json → Bool
  | [] => true
  | item :: items => item.distinctKeys && itemsDistinct items
  termination_by structural items => items

/-- Whether no object in the values of members has two members of one key. -/
def membersDistinct : List (Quoted × Json) → Bool
  | [] => true
  | (_, value) :: members => value.distinctKeys && membersDistinct members
  termination_by structural members => members

end

theorem itemsDistinct_eq (items : List Json) : itemsDistinct items = items.all distinctKeys := by
  induction items with
  | nil => rfl
  | cons item items ih => rw [itemsDistinct, ih, List.all_cons]

theorem membersDistinct_eq (members : List (Quoted × Json)) :
    membersDistinct members = members.all fun member => member.2.distinctKeys := by
  induction members with
  | nil => rfl
  | cons member members ih => rw [membersDistinct, ih, List.all_cons]

theorem distinctKeys_array {items : List Json} :
    (Json.array items).distinctKeys ↔ ∀ item ∈ items, item.distinctKeys := by
  rw [distinctKeys, itemsDistinct_eq, List.all_eq_true]

theorem distinctKeys_object {members : List (Quoted × Json)} :
    (Json.object members).distinctKeys ↔
      (members.filterMap Prod.fst).Nodup ∧ ∀ member ∈ members, member.2.distinctKeys := by
  rw [distinctKeys, membersDistinct_eq, Bool.and_eq_true, decide_eq_true_eq, List.all_eq_true]

end Json

theorem Shape.distinctKeys_default (shape : Shape) :
    ∀ field ∈ shape.fields, ∀ default ∈ field.default?, default.distinctKeys := by
  cases shape <;> simp [fields, distinctKeys, itemsDistinct, membersDistinct, Json.text]

/-- **A change of spelling makes no key repeated**, and none that was is left. -/
theorem Edit.distinctKeys_iff {shape : Shape} {a b : Json} (h : Edit shape a b) :
    a.distinctKeys ↔ b.distinctKeys := by
  induction h with
  | reorder h =>
    rw [distinctKeys_object, distinctKeys_object, (h.filterMap Prod.fst).nodup_iff]
    simp only [h.mem_iff]
  | @writeOut shape field default members hfield hdefault habsent =>
    have hvalue := shape.distinctKeys_default field hfield default hdefault
    have hkey : field.key ∉ members.filterMap Prod.fst := by
      simpa using habsent
    have hcons : ((some field.key, default) :: members).filterMap Prod.fst =
        field.key :: members.filterMap Prod.fst := rfl
    rw [distinctKeys_object, distinctKeys_object, List.forall_mem_cons, hcons, List.nodup_cons]
    simp only [hvalue, hkey, not_false_eq_true, true_and]
  | wrap name => simp [distinctKeys, membersDistinct]
  | member h ih =>
    rw [distinctKeys_object, distinctKeys_object]
    simp only [List.filterMap_append, List.filterMap_cons, List.forall_mem_append,
      List.forall_mem_cons, ih]
  | item h ih =>
    rw [distinctKeys_array, distinctKeys_array]
    simp only [List.forall_mem_append, List.forall_mem_cons, ih]

end Wiring
