import Wiring.Json.Record
import Wiring.Proofs.JsonTokens

/-!
# Reading written records

Lists and records are read as they were written, as long as arrays and objects are not nested too
deeply.

* `Json.nesting`: how deeply arrays and objects are nested in a value;
* `ofMembers?_map`, `record?_ofFields`: the fields of a record; `required?_cons_self` and the like:
  each field in its turn;
* `listOf?_map`: the items of a list.
-/

namespace Wiring.Json

/-! ## Nesting -/

mutual

/-- The number of arrays and objects that stand in each other in a value. -/
def nesting : Json → Nat
  | .array items => itemNesting items + 1
  | .object members => memberNesting members + 1
  | _ => 0
  termination_by structural value => value

/-- The greatest nesting of the items of an array. -/
def itemNesting : List Json → Nat
  | [] => 0
  | item :: items => max item.nesting (itemNesting items)
  termination_by structural items => items

/-- The greatest nesting of the members of an object. -/
def memberNesting : List (Quoted × Json) → Nat
  | [] => 0
  | (_, value) :: members => max value.nesting (memberNesting members)
  termination_by structural members => members

end

theorem itemNesting_le {items : List Json} {depth : Nat} :
    itemNesting items ≤ depth ↔ ∀ item ∈ items, item.nesting ≤ depth := by
  induction items with
  | nil => simp [itemNesting]
  | cons item items ih => rw [itemNesting, Nat.max_le, ih, List.forall_mem_cons]

theorem memberNesting_le {members : List (Quoted × Json)} {depth : Nat} :
    memberNesting members ≤ depth ↔ ∀ member ∈ members, member.2.nesting ≤ depth := by
  induction members with
  | nil => simp [memberNesting]
  | cons member members ih => rw [memberNesting, Nat.max_le, ih, List.forall_mem_cons]

/-- An array takes one level, and its items have the levels below it. -/
theorem nesting_array_le {items : List Json} {depth : Nat} :
    (Json.array items).nesting ≤ depth ↔
      ∃ below, depth = below + 1 ∧ ∀ item ∈ items, item.nesting ≤ below := by
  rw [nesting]
  constructor
  · intro h
    exact ⟨depth - 1, by omega, itemNesting_le.1 (by omega)⟩
  · rintro ⟨below, rfl, h⟩
    exact Nat.succ_le_succ (itemNesting_le.2 h)

/-- An object takes one level, and the values in it have the levels below it. -/
theorem nesting_object_le {members : List (Quoted × Json)} {depth : Nat} :
    (Json.object members).nesting ≤ depth ↔
      ∃ below, depth = below + 1 ∧ ∀ member ∈ members, member.2.nesting ≤ below := by
  rw [nesting]
  constructor
  · intro h
    exact ⟨depth - 1, by omega, memberNesting_le.1 (by omega)⟩
  · rintro ⟨below, rfl, h⟩
    exact Nat.succ_le_succ (memberNesting_le.2 h)

theorem nesting_ofFields_le {fields : List (String × Json)} {depth : Nat} :
    (ofFields fields).nesting ≤ depth ↔
      ∃ below, depth = below + 1 ∧ ∀ field ∈ fields, field.2.nesting ≤ below := by
  rw [ofFields, nesting_object_le]
  simp only [List.forall_mem_map]

/-! ## Records -/

theorem mapM_map_eq_some {α β : Type} {read : β → Option α} {write : α → β} {list : List α}
    (h : ∀ a ∈ list, read (write a) = some a) : (list.map write).mapM read = some list := by
  induction list with
  | nil => rfl
  | cons a list ih =>
    obtain ⟨ha, hlist⟩ := List.forall_mem_cons.1 h
    rw [List.map_cons, List.mapM_cons, ha, ih hlist]
    rfl

/-- The fields of a written record are the fields that are read, if they are known ones and no two
have one name. -/
theorem ofMembers?_map {known : List String} {fields : List (String × Json)}
    (hnodup : (fields.map (·.1)).Nodup) (hknown : ∀ field ∈ fields, field.1 ∈ known) :
    ofMembers? known (fields.map fun field => (some field.1, field.2)) = some fields := by
  have hnamed : (fields.map fun field => (some field.1, field.2)).mapM
      (fun member : Quoted × Json => member.1.map (·, member.2)) = some fields :=
    mapM_map_eq_some fun field _ => rfl
  have hfilter : fields.filter (known.contains ·.1) = fields :=
    List.filter_eq_self.2 fun field hfield => List.contains_iff_mem.2 (hknown field hfield)
  rw [ofMembers?, hnamed]
  change (if ((fields.filter (known.contains ·.1)).map (·.1)).Nodup then
    some (fields.filter (known.contains ·.1)) else none) = _
  rw [hfilter, if_pos hnodup]

theorem record?_ofFields {known : List String} {fields : List (String × Json)}
    (hnodup : (fields.map (·.1)).Nodup) (hknown : ∀ field ∈ fields, field.1 ∈ known) :
    record? known (ofFields fields) = some fields :=
  ofMembers?_map hnodup hknown

section

variable {α : Type} {key field : String} {value : Json} {rest : Record} {default : α}
  {read : Json → Option α}

@[simp] theorem required?_cons_self :
    Record.required? ((key, value) :: rest) key read = read value := by
  rw [Record.required?, List.lookup_cons_self, Option.bind_some]

@[simp] theorem required?_cons_of_ne (h : field ≠ key) :
    Record.required? ((key, value) :: rest) field read = rest.required? field read := by
  rw [Record.required?, Record.required?, List.lookup_cons, beq_false_of_ne h]

@[simp] theorem withDefault?_cons_self :
    Record.withDefault? ((key, value) :: rest) key default read = read value := by
  rw [Record.withDefault?, List.lookup_cons_self]

@[simp] theorem withDefault?_cons_of_ne (h : field ≠ key) :
    Record.withDefault? ((key, value) :: rest) field default read =
      rest.withDefault? field default read := by
  rw [Record.withDefault?, Record.withDefault?, List.lookup_cons, beq_false_of_ne h]

end

theorem text?_text (s : String) : text? (.text s) = some s := rfl

variable {α : Type}

/-- A written list is read item by item, one level below. -/
theorem listOf?_map {read : Nat → Json → Option α} {write : α → Json} {list : List α} {depth : Nat}
    (h : ∀ a ∈ list, ∀ below, (write a).nesting ≤ below → read below (write a) = some a)
    (hdepth : (Json.array (list.map write)).nesting ≤ depth) :
    listOf? read depth (.array (list.map write)) = some list := by
  obtain ⟨below, rfl, hitems⟩ := nesting_array_le.1 hdepth
  rw [listOf?]
  exact mapM_map_eq_some fun a ha => h a ha below (hitems _ (List.mem_map_of_mem ha))

end Wiring.Json
