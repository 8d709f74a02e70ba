import Wiring.Proofs.ShapeReading
import Wiring.Proofs.JsonValues

/-!
# Equivalent spellings

Whatever the shape of a place, values with parts that are read alike are read alike, and so are
values in which keys stand in another order, a key is written out, or a type is given by its class
alone. So all spellings of a document are read as the same unit, or none is.

* `Shape.MembersAlike`, `Shape.alike_object`, `Shape.ItemsAlike`, `Shape.alike_array`: objects and
  arrays with parts that are alike;
* `Shape.alike_self`, `Shape.alike_of_levels`: the number of levels does not matter;
* `Shape.alike_of_perm`, `Shape.alike_of_default`, `Shape.alike_wrap`: the three changes of
  spelling;
* `Edit.alike`, `Respelled.alike`: a change at any depth, and any number of changes;
* **`CompilationUnit.read?_eq_of_respelled`**: reading documents with different spellings.
-/

namespace Wiring

open Json

namespace Shape

variable {shape : Shape} {n m : Nat}

/-! ## Members that are alike -/

/-- The members of two objects are alike one by one. -/
def MembersAlike (shape : Shape) : List (Quoted × Json) → List (Quoted × Json) → Prop :=
  List.Forall₂ fun p q => p.1 = q.1 ∧ (shape.member p.1).Alike p.2 q.2

namespace MembersAlike

variable {a b : List (Quoted × Json)}

theorem map_fst_eq (h : shape.MembersAlike a b) : a.map Prod.fst = b.map Prod.fst := by
  induction h with
  | nil => rfl
  | cons hhead _ ih => rw [List.map_cons, List.map_cons, hhead.1, ih]

/-- What two objects give for a field is alike. -/
theorem fieldAlike (h : shape.MembersAlike a b) {field : Field} (hfield : field ∈ shape.fields)
    (ha : ∀ p ∈ a, p.2.nesting ≤ n) (hb : ∀ p ∈ b, p.2.nesting ≤ m) :
    FieldAlike n m field (a.lookup (some field.key)) (b.lookup (some field.key)) := by
  induction h with
  | nil => exact .missing
  | @cons p q a b hhead _ ih =>
    obtain ⟨own, v⟩ := p
    obtain ⟨own', w⟩ := q
    obtain ⟨rfl, halike⟩ := hhead
    obtain ⟨hv, ha⟩ := List.forall_mem_cons.1 ha
    obtain ⟨hw, hb⟩ := List.forall_mem_cons.1 hb
    rw [List.lookup_cons, List.lookup_cons]
    by_cases hkey : some field.key = own
    · subst hkey
      rw [beq_self_eq_true]
      rw [member_of_mem_fields hfield] at halike
      exact .given hv hw halike
    · rw [beq_false_of_ne hkey]
      exact ih ha hb

theorem kept_eq (h : shape.MembersAlike a b) (ha : ∀ p ∈ a, p.2.nesting ≤ n)
    (hb : ∀ p ∈ b, p.2.nesting ≤ m) :
    (Json.object a).kept (n + 1) = (Json.object b).kept (m + 1) := by
  simp only [kept]
  induction h with
  | nil => rfl
  | @cons p q a b hhead _ ih =>
    obtain ⟨hv, ha⟩ := List.forall_mem_cons.1 ha
    obtain ⟨hw, hb⟩ := List.forall_mem_cons.1 hb
    rw [List.all_cons, List.all_cons, ih ha hb, hhead.1, hhead.2.kept hv hw]

end MembersAlike

/-! ## Objects -/

/-- Two objects are alike if either both of them are records or none is, and in all fields. -/
theorem IsRecord.read_object_eq {assemble : Nat → Record → Option shape.Value}
    (hrecord : shape.IsRecord assemble) {a b : List (Quoted × Json)}
    (hsome : (ofMembers? shape.keys a).isSome ↔ (ofMembers? shape.keys b).isSome)
    (hfields : ∀ field ∈ shape.fields,
      FieldAlike n m field (a.lookup (some field.key)) (b.lookup (some field.key))) :
    shape.read (n + 1) (.object a) = shape.read (m + 1) (.object b) := by
  rw [hrecord.read_object, hrecord.read_object]
  cases hfirst : ofMembers? shape.keys a with
  | none =>
    have hsecond : ofMembers? shape.keys b = none :=
      Option.not_isSome_iff_eq_none.1 fun h => by
        rw [hfirst] at hsome
        cases hsome.2 h
    rw [hsecond]
    rfl
  | some record =>
    obtain ⟨record', hsecond⟩ := Option.isSome_iff_exists.1 (hsome.1 (by rw [hfirst]; rfl))
    rw [hsecond]
    refine hrecord.assemble_eq fun field hfield => ?_
    have hkey : field.key ∈ shape.keys := List.mem_map_of_mem hfield
    rw [lookup_ofMembers? hfirst hkey, lookup_ofMembers? hsecond hkey]
    exact hfields field hfield

theorem IsSingle.read_object_eq {ofMember? : Nat → Quoted → Json → Option shape.Value}
    (hsingle : shape.IsSingle ofMember?) {a b : List (Quoted × Json)} (h : shape.MembersAlike a b)
    (ha : ∀ p ∈ a, p.2.nesting ≤ n) (hb : ∀ p ∈ b, p.2.nesting ≤ m) :
    shape.read (n + 1) (.object a) = shape.read (m + 1) (.object b) := by
  by_cases hone : ∃ p, a = [p]
  · obtain ⟨p, rfl⟩ := hone
    obtain ⟨q, rfl⟩ := List.length_eq_one_iff.1 h.length_eq.symm
    obtain ⟨hkey, halike⟩ := (List.forall₂_cons.1 h).1
    obtain ⟨key, v⟩ := p
    obtain ⟨key', w⟩ := q
    obtain rfl : key = key' := hkey
    rw [hsingle.read_single, hsingle.read_single]
    exact hsingle.ofMember?_eq (ha _ List.mem_cons_self) (hb _ List.mem_cons_self) halike
  · have hnone := not_exists.1 hone
    have hnone' : ∀ q, b ≠ [q] := by
      rintro q rfl
      obtain ⟨p, rfl⟩ := List.length_eq_one_iff.1 h.length_eq
      exact hnone p rfl
    rw [hsingle.read_other n a hnone, hsingle.read_other m b hnone']

/-- An entry of a table of supertypes. -/
def entryOfMember? (depth : Nat) (member : Quoted × Json) :
    Option (QualifiedName × List QualifiedName) := do
  return (⟨← member.1⟩, ← namesOfJson? depth member.2)

theorem read_supertypeTable (depth : Nat) (members : List (Quoted × Json)) :
    supertypeTable.read (depth + 1) (.object members) =
      (members.mapM (entryOfMember? depth)).map NameMap.ofList := by
  rw [read, supertypeTableOfJson?, Option.map_eq_bind]
  rfl

theorem read_supertypeTable_eq {a b : List (Quoted × Json)} (h : supertypeTable.MembersAlike a b)
    (ha : ∀ p ∈ a, p.2.nesting ≤ n) (hb : ∀ p ∈ b, p.2.nesting ≤ m) :
    supertypeTable.read (n + 1) (.object a) = supertypeTable.read (m + 1) (.object b) := by
  have hentries : a.mapM (entryOfMember? n) = b.mapM (entryOfMember? m) := by
    refine mapM_congr_forall₂ ?_
    induction h with
    | nil => exact .nil
    | @cons p q a b hhead _ ih =>
      obtain ⟨hv, ha⟩ := List.forall_mem_cons.1 ha
      obtain ⟨hw, hb⟩ := List.forall_mem_cons.1 hb
      refine .cons ?_ (ih ha hb)
      have hnames : (list name).Alike p.2 q.2 := hhead.2
      have hread : namesOfJson? n p.2 = namesOfJson? m q.2 := hnames.read hv hw
      rw [entryOfMember?, entryOfMember?, hhead.1, hread]
  rw [read_supertypeTable, read_supertypeTable, hentries]

/-- **Objects with members that are alike are alike.** -/
theorem alike_object {a b : List (Quoted × Json)} (h : shape.MembersAlike a b) :
    shape.Alike (.object a) (.object b) where
  read {n m} hn hm := by
    obtain ⟨n, rfl, ha⟩ := nesting_object_le.1 hn
    obtain ⟨m, rfl, hb⟩ := nesting_object_le.1 hm
    rcases shape.isRecord_or_isSingle with ⟨assemble, hrecord⟩ | ⟨ofMember?, hsingle⟩ | rfl
    · refine hrecord.read_object_eq ?_ fun field hfield => h.fieldAlike hfield ha hb
      rw [isSome_ofMembers?, isSome_ofMembers?, h.map_fst_eq]
    · exact hsingle.read_object_eq h ha hb
    · exact read_supertypeTable_eq h ha hb
  kept {n m} hn hm := by
    obtain ⟨n, rfl, ha⟩ := nesting_object_le.1 hn
    obtain ⟨m, rfl, hb⟩ := nesting_object_le.1 hm
    exact h.kept_eq ha hb

/-! ## Arrays -/

/-- The items of two arrays are alike one by one. -/
structure ItemsAlike (shape : Shape) (a b : List Json) : Prop where
  length_eq : a.length = b.length
  alike (index : Nat) (v w : Json) :
    a[index]? = some v → b[index]? = some w → (shape.item index).Alike v w

namespace ItemsAlike

variable {a b : List Json}

theorem forall₂ (h : shape.ItemsAlike a b) {r : Json → Json → Prop}
    (hr : ∀ index, ∀ v ∈ a, ∀ w ∈ b, (shape.item index).Alike v w → r v w) :
    List.Forall₂ r a b := by
  refine List.forall₂_iff_get.2 ⟨h.length_eq, fun index hv hw => ?_⟩
  exact hr index _ (List.get_mem a _) _ (List.get_mem b _)
    (h.alike index _ _ (List.getElem?_eq_getElem hv) (List.getElem?_eq_getElem hw))

/-- The records that two arrays stand for are alike. -/
theorem recordAlike (h : shape.ItemsAlike a b) (ha : ∀ item ∈ a, item.nesting ≤ n)
    (hb : ∀ item ∈ b, item.nesting ≤ m) :
    shape.RecordAlike n m (shape.keys.zip a) (shape.keys.zip b) := by
  intro field hfield
  obtain ⟨index, hindex⟩ := List.mem_iff_getElem?.1 hfield
  have hkey : shape.keys[index]? = some field.key := by
    rw [keys, List.getElem?_map, hindex]
    rfl
  rw [lookup_zip shape.nodup_keys hkey, lookup_zip shape.nodup_keys hkey]
  rcases Nat.lt_or_ge index a.length with hlt | hge
  · have hlt' : index < b.length := h.length_eq ▸ hlt
    rw [List.getElem?_eq_getElem hlt, List.getElem?_eq_getElem hlt']
    have halike := h.alike index _ _ (List.getElem?_eq_getElem hlt)
      (List.getElem?_eq_getElem hlt')
    rw [item_of_getElem?_fields hindex] at halike
    exact .given (ha _ (List.getElem_mem hlt)) (hb _ (List.getElem_mem hlt')) halike
  · rw [List.getElem?_eq_none hge, List.getElem?_eq_none (h.length_eq ▸ hge)]
    exact .missing

theorem read_eq_of_isRecord (h : shape.ItemsAlike a b)
    (hshape : ∃ assemble, shape.IsRecord assemble) (ha : ∀ item ∈ a, item.nesting ≤ n)
    (hb : ∀ item ∈ b, item.nesting ≤ m) :
    shape.read (n + 1) (.array a) = shape.read (m + 1) (.array b) := by
  obtain ⟨assemble, hrecord⟩ := hshape
  rcases hrecord.read_array with hnone | hread
  · rw [hnone, hnone]
  · rw [hread, hread, record?, record?, h.length_eq]
    split
    · exact hrecord.assemble_eq (h.recordAlike ha hb)
    · rfl

/-- What is made of two arrays is the same. -/
theorem read_eq (h : shape.ItemsAlike a b) (ha : ∀ item ∈ a, item.nesting ≤ n)
    (hb : ∀ item ∈ b, item.nesting ≤ m) :
    shape.read (n + 1) (.array a) = shape.read (m + 1) (.array b) := by
  cases shape with
  | unit => exact h.read_eq_of_isRecord isRecord_unit ha hb
  | classDeclaration => exact h.read_eq_of_isRecord isRecord_classDeclaration ha hb
  | function => exact h.read_eq_of_isRecord isRecord_function ha hb
  | property => exact h.read_eq_of_isRecord isRecord_property ha hb
  | annotation => exact h.read_eq_of_isRecord isRecord_annotation ha hb
  | argument => exact h.read_eq_of_isRecord isRecord_argument ha hb
  | enumEntry => exact h.read_eq_of_isRecord isRecord_enumEntry ha hb
  | type => exact h.read_eq_of_isRecord isRecord_type ha hb
  | typeArguments =>
    refine mapM_congr_forall₂ (h.forall₂ fun index v hv w hw halike => ?_)
    have halike : typeArgument.Alike v w := halike
    exact halike.read (Nat.le_succ_of_le (ha v hv)) (Nat.le_succ_of_le (hb w hw))
  | list item =>
    refine mapM_congr_forall₂ (h.forall₂ fun index v hv w hw halike => ?_)
    have halike : item.Alike v w := halike
    exact halike.read (ha v hv) (hb w hw)
  | value => rw [read_value_other (by simp), read_value_other (by simp)]
  | typeArgument | supertypeTable | name | plain => rfl

theorem kept_eq (h : shape.ItemsAlike a b) (ha : ∀ item ∈ a, item.nesting ≤ n)
    (hb : ∀ item ∈ b, item.nesting ≤ m) :
    (Json.array a).kept (n + 1) = (Json.array b).kept (m + 1) := by
  have hitems : List.Forall₂ (fun v w => v.kept n = w.kept m) a b :=
    h.forall₂ fun index v hv w hw halike => halike.kept (ha v hv) (hb w hw)
  simp only [kept]
  clear h ha hb
  induction hitems with
  | nil => rfl
  | cons hhead _ ih => rw [List.all_cons, List.all_cons, hhead, ih]

end ItemsAlike

/-- **Arrays with items that are alike are alike.** -/
theorem alike_array {a b : List Json} (h : shape.ItemsAlike a b) :
    shape.Alike (.array a) (.array b) where
  read {n m} hn hm := by
    obtain ⟨n, rfl, ha⟩ := nesting_array_le.1 hn
    obtain ⟨m, rfl, hb⟩ := nesting_array_le.1 hm
    exact h.read_eq ha hb
  kept {n m} hn hm := by
    obtain ⟨n, rfl, ha⟩ := nesting_array_le.1 hn
    obtain ⟨m, rfl, hb⟩ := nesting_array_le.1 hm
    exact h.kept_eq ha hb

/-! ## Levels -/

/-- **Every value is read alike whatever the number of levels.** -/
theorem alike_self (shape : Shape) (a : Json) : shape.Alike a a := by
  obtain ⟨levels, hlevels⟩ : ∃ levels, a.nesting ≤ levels := ⟨_, Nat.le_refl _⟩
  induction levels generalizing shape a with
  | zero => exact alike_of_nesting_eq_zero shape (Nat.le_zero.1 hlevels)
  | succ levels ih =>
    cases a with
    | array items =>
      obtain ⟨below, heq, hitems⟩ := nesting_array_le.1 hlevels
      cases heq
      refine alike_array ⟨rfl, fun index v w hv hw => ?_⟩
      obtain rfl : v = w := Option.some.inj (hv.symm.trans hw)
      exact ih _ v (hitems v (List.mem_of_getElem? hv))
    | object members =>
      obtain ⟨below, heq, hmembers⟩ := nesting_object_le.1 hlevels
      cases heq
      exact alike_object (List.forall₂_same.2 fun p hp => ⟨rfl, ih _ p.2 (hmembers p hp)⟩)
    | _ => exact alike_of_nesting_eq_zero shape rfl

/-- Objects are alike if they are read alike wherever there are enough levels for both, and enough
for the second are enough for the first. -/
theorem alike_of_levels {a b : List (Quoted × Json)}
    (hle : ∀ m, (∀ p ∈ b, p.2.nesting ≤ m) → ∀ p ∈ a, p.2.nesting ≤ m)
    (hread : ∀ m, (∀ p ∈ b, p.2.nesting ≤ m) →
      shape.read (m + 1) (.object a) = shape.read (m + 1) (.object b))
    (hkept : ∀ m, (∀ p ∈ b, p.2.nesting ≤ m) →
      (Json.object a).kept (m + 1) = (Json.object b).kept (m + 1)) :
    shape.Alike (.object a) (.object b) where
  read {n m} hn hm := by
    obtain ⟨m, rfl, hb⟩ := nesting_object_le.1 hm
    have ha : (Json.object a).nesting ≤ m + 1 := nesting_object_le.2 ⟨m, rfl, hle m hb⟩
    exact ((shape.alike_self _).read hn ha).trans (hread m hb)
  kept {n m} hn hm := by
    obtain ⟨m, rfl, hb⟩ := nesting_object_le.1 hm
    have ha : (Json.object a).nesting ≤ m + 1 := nesting_object_le.2 ⟨m, rfl, hle m hb⟩
    exact ((shape.alike_self _).kept hn ha).trans (hkept m hb)

/-! ## Order -/

theorem membersAlike_self (shape : Shape) (members : List (Quoted × Json)) :
    shape.MembersAlike members members :=
  List.forall₂_same.2 fun p _ => ⟨rfl, (shape.member p.1).alike_self p.2⟩

/-- The keys of the entries of a table are keys of its members. -/
theorem map_fst_entries_sublist (depth : Nat) (members : List (Quoted × Json)) :
    ((members.filterMap (entryOfMember? depth)).map Prod.fst).Sublist
      ((members.filterMap Prod.fst).map QualifiedName.mk) := by
  induction members with
  | nil => exact .slnil
  | cons member rest ih =>
    obtain ⟨key, value⟩ := member
    cases key with
    | none => exact ih
    | some key =>
      cases hnames : namesOfJson? depth value with
      | none =>
        have hentry : entryOfMember? depth (some key, value) = none := by
          simp [entryOfMember?, hnames]
        rw [List.filterMap_cons_none hentry]
        exact ih.cons _
      | some names =>
        have hentry : entryOfMember? depth (some key, value) = some (⟨key⟩, names) := by
          simp [entryOfMember?, hnames]
        rw [List.filterMap_cons_some hentry]
        exact ih.cons_cons _

theorem read_supertypeTable_eq_of_perm {a b : List (Quoted × Json)} (h : a.Perm b)
    (hdistinct : (a.filterMap Prod.fst).Nodup) (depth : Nat) :
    supertypeTable.read (depth + 1) (.object a) = supertypeTable.read (depth + 1) (.object b) := by
  have hkeys : ((a.filterMap (entryOfMember? depth)).map Prod.fst).Nodup :=
    (hdistinct.map fun _ _ heq => congrArg QualifiedName.text heq).sublist
      (map_fst_entries_sublist depth a)
  rw [read_supertypeTable, read_supertypeTable, mapM_eq_ite, mapM_eq_ite]
  simp only [h.mem_iff]
  split
  · exact congrArg some (NameMap.ofList_eq_of_perm (h.filterMap _) hkeys)
  · rfl

/-- **The order of members does not matter**, if no key is repeated. -/
theorem alike_of_perm {a b : List (Quoted × Json)} (h : a.Perm b)
    (hdistinct : (a.filterMap Prod.fst).Nodup) : shape.Alike (.object a) (.object b) := by
  refine alike_of_levels (fun m hb p hp => hb p (h.mem_iff.1 hp)) (fun m hb => ?_) fun m _ => ?_
  · have ha : ∀ p ∈ a, p.2.nesting ≤ m := fun p hp => hb p (h.mem_iff.1 hp)
    rcases shape.isRecord_or_isSingle with ⟨assemble, hrecord⟩ | ⟨ofMember?, hsingle⟩ | rfl
    · have hkeys := h.map Prod.fst
      refine hrecord.read_object_eq ?_ fun field hfield => ?_
      · rw [isSome_ofMembers?, isSome_ofMembers?, ((hkeys.filterMap id).filter _).nodup_iff]
        simp only [hkeys.mem_iff]
      · rw [← lookup_eq_of_perm h hdistinct]
        exact (shape.membersAlike_self a).fieldAlike hfield ha ha
    · by_cases hone : ∃ p, a = [p]
      · obtain ⟨p, rfl⟩ := hone
        rw [List.singleton_perm.1 h]
      · have hnone := not_exists.1 hone
        have hnone' : ∀ p, b ≠ [p] := by
          rintro p rfl
          exact hnone p (List.perm_singleton.1 h)
        rw [hsingle.read_other m a hnone, hsingle.read_other m b hnone']
    · exact read_supertypeTable_eq_of_perm h hdistinct m
  · rw [kept, kept, h.all_eq]

/-! ## Keys that are left out -/

/-- A member with a new key does not make a record of what is none, and the other way round. -/
theorem isSome_ofMembers?_cons {known : List String} {key : String} {value : Json}
    {members : List (Quoted × Json)} (h : some key ∉ members.map Prod.fst) :
    (ofMembers? known members).isSome ↔
      (ofMembers? known ((some key, value) :: members)).isSome := by
  have hkey : key ∉ ((members.map Prod.fst).filterMap id).filter known.contains := by
    intro hmem
    obtain ⟨found, hfound, rfl⟩ := List.mem_filterMap.1 (List.mem_filter.1 hmem).1
    exact h hfound
  have hcons : (some key :: members.map Prod.fst).filterMap id =
      key :: (members.map Prod.fst).filterMap id := rfl
  rw [isSome_ofMembers?, isSome_ofMembers?, List.map_cons, List.forall_mem_cons, hcons,
    List.filter_cons]
  split
  · simp only [List.nodup_cons, hkey, Option.isSome_some, not_false_eq_true, true_and]
  · simp only [Option.isSome_some, true_and]

/-- **A key that is left out may be written out.** -/
theorem alike_of_default {field : Field} (hfield : field ∈ shape.fields) {default : Json}
    (hdefault : field.default? = some default) {members : List (Quoted × Json)}
    (habsent : some field.key ∉ members.map Prod.fst) :
    shape.Alike (.object members) (.object ((some field.key, default) :: members)) := by
  refine alike_of_levels (fun m hall => (List.forall_mem_cons.1 hall).2) (fun m hall => ?_)
    fun m hall => ?_
  · obtain ⟨hvalue, hmembers⟩ := List.forall_mem_cons.1 hall
    rcases shape.isRecord_or_isSingle with ⟨assemble, hrecord⟩ | ⟨ofMember?, hsingle⟩ | rfl
    · refine hrecord.read_object_eq (isSome_ofMembers?_cons habsent) fun other hother => ?_
      by_cases hkey : other.key = field.key
      · obtain rfl := List.inj_on_of_nodup_map shape.nodup_keys hother hfield hkey
        rw [lookup_eq_none_of_not_mem habsent, List.lookup_cons_self]
        exact .writtenOut hdefault hvalue
      · rw [List.lookup_cons, beq_false_of_ne fun heq => hkey (Option.some.inj heq)]
        exact (shape.membersAlike_self members).fieldAlike hother hmembers hmembers
    · rw [hsingle.default?_eq field hfield] at hdefault
      cases hdefault
    · cases hfield
  · obtain ⟨hvalue, -⟩ := List.forall_mem_cons.1 hall
    obtain ⟨hnesting, hkept⟩ := nesting_default_le field hfield default hdefault
    have hlevels : default.kept m = default.kept 1 :=
      (field.shape.alike_self default).kept hvalue hnesting
    rw [kept, kept, List.all_cons, hlevels, hkept]
    rfl

/-- **A type without arguments may be given by its class alone.** -/
theorem alike_wrap (text : Quoted) :
    type.Alike (.string text) (.object [(some "class", .string text)]) where
  read {n m} _ hm := by
    obtain ⟨m, rfl, -⟩ := nesting_object_le.1 hm
    have hrecord : ofMembers? ["class", "arguments", "nullable"] [(some "class", .string text)] =
        some [("class", .string text)] :=
      @ofMembers?_map _ [("class", .string text)] (by simp) (by simp)
    have hstring : type.read n (.string text) = text.map fun name => .ofClass ⟨name⟩ := by
      cases n <;> rfl
    rw [hstring, read, TypeRef.ofKept?, hrecord]
    cases text <;> rfl
  kept {n m} _ hm := by
    obtain ⟨m, rfl, -⟩ := nesting_object_le.1 hm
    cases n <;> simp [kept]

end Shape

/-! ## Documents -/

/-- Two arrays that differ in one item have the same items at all other places. -/
theorem getElem?_append_cons_of_ne {before after : List Json} {value value' : Json} {index : Nat}
    (h : index ≠ before.length) :
    (before ++ value :: after)[index]? = (before ++ value' :: after)[index]? := by
  rw [List.getElem?_append, List.getElem?_append]
  split
  · rfl
  · obtain ⟨place, hplace⟩ := Nat.exists_eq_add_of_lt (show before.length < index by omega)
    have hsub : index - before.length = place + 1 := by omega
    rw [hsub, List.getElem?_cons_succ, List.getElem?_cons_succ]

/-- **A change of spelling is read alike.** -/
theorem Edit.alike {shape : Shape} {a b : Json} (h : Edit shape a b) (hdistinct : a.distinctKeys) :
    shape.Alike a b := by
  induction h with
  | reorder h => exact Shape.alike_of_perm h (distinctKeys_object.1 hdistinct).1
  | writeOut hfield hdefault habsent => exact Shape.alike_of_default hfield hdefault habsent
  | wrap name => exact Shape.alike_wrap name
  | @member shape before key value value' after h ih =>
    have hvalue := (distinctKeys_object.1 hdistinct).2 (key, value) (by simp)
    refine Shape.alike_object (List.rel_append (shape.membersAlike_self before) ?_)
    exact .cons ⟨rfl, ih hvalue⟩ (shape.membersAlike_self after)
  | @item shape before value value' after h ih =>
    have hvalue := distinctKeys_array.1 hdistinct value (by simp)
    refine Shape.alike_array ⟨by simp, fun index v w hv hw => ?_⟩
    by_cases hplace : index = before.length
    · subst hplace
      rw [List.getElem?_append_right (Nat.le_refl _), Nat.sub_self] at hv hw
      cases hv
      cases hw
      exact ih hvalue
    · rw [← getElem?_append_cons_of_ne hplace] at hw
      obtain rfl : v = w := Option.some.inj (hv.symm.trans hw)
      exact Shape.alike_self _ v

/-- **Values that differ in their spelling only are read alike**, if no key is repeated in one of
them; then none is in the other. -/
theorem Respelled.alike {shape : Shape} {a b : Json} (h : Respelled shape a b) :
    (a.distinctKeys ↔ b.distinctKeys) ∧ (a.distinctKeys → shape.Alike a b) := by
  induction h with
  | rel a b h => exact ⟨h.distinctKeys_iff, h.alike⟩
  | refl a => exact ⟨Iff.rfl, fun _ => shape.alike_self a⟩
  | symm a b _ ih => exact ⟨ih.1.symm, fun hb => (ih.2 (ih.1.2 hb)).symm⟩
  | trans a b c _ _ ih ih' =>
    exact ⟨ih.1.trans ih'.1, fun ha => (ih.2 ha).trans (ih'.2 (ih.1.1 ha))⟩

/-- **Documents that differ in their spelling only are read alike**: either none of them is the
document of a unit, or both are documents of the same unit. They may have no repeated keys, and
arrays and objects may not be nested too deeply in either of them. -/
theorem CompilationUnit.read?_eq_of_respelled {document document' : String} {json json' : Json}
    (hjson : Json.read? document = some json) (hjson' : Json.read? document' = some json')
    (hdistinct : json.distinctKeys) (hnesting : json.nesting ≤ 127)
    (hnesting' : json'.nesting ≤ 127)
    (h : Respelled .unit json json') :
    CompilationUnit.read? document = CompilationUnit.read? document' := by
  rw [CompilationUnit.read?, CompilationUnit.read?, hjson, hjson']
  exact (h.alike.2 hdistinct).read hnesting hnesting'

/-- A unit with a function whose type is given by its class. -/
def shortSpelling : Json :=
  .ofFields [("classes", .array [.ofFields [("fq_name", .text "p.A"),
    ("functions", .array [.ofFields [("name", .text "f"), ("return_type", .text "p.B")]])]])]

/-- The same unit with an empty name, the keys of the class in another order, and the type as an
object. -/
def longSpelling : Json :=
  .ofFields [("module_name", .text ""), ("classes", .array [.ofFields [
    ("functions", .array [.ofFields [("name", .text "f"),
      ("return_type", .ofFields [("class", .text "p.B")])]]),
    ("fq_name", .text "p.A")]])]

theorem respelled_shortSpelling : Respelled .unit shortSpelling longSpelling := by
  have horder : Edit .unit shortSpelling _ :=
    @Edit.member .unit [] (some "classes") _ _ []
      (@Edit.item (.list .classDeclaration) [] _ _ [] (.reorder (.swap _ _ _)))
  have hwrap : Edit .unit _ _ :=
    @Edit.member .unit [] (some "classes") _ _ []
      (@Edit.item (.list .classDeclaration) [] _ _ []
        (@Edit.member .classDeclaration [] (some "functions") _ _ [(some "fq_name", .text "p.A")]
          (@Edit.item (.list .function) [] _ _ []
            (@Edit.member .function [(some "name", .text "f")] (some "return_type") _ _ []
              (.wrap (some "p.B"))))))
  have hname : Edit .unit _ longSpelling :=
    @Edit.writeOut .unit ⟨"module_name", .plain, some (.text "")⟩ _ _ (by simp [Shape.fields]) rfl
      (by simp)
  exact .trans _ _ _ (.rel _ _ horder) (.trans _ _ _ (.rel _ _ hwrap) (.rel _ _ hname))

theorem plain_shortSpelling : Plain shortSpelling := by
  have hfunction : Plain (.ofFields [("name", .text "f"), ("return_type", .text "p.B")]) :=
    .object _ (by simp [Plain.text])
  have hclass : Plain (.ofFields [("fq_name", .text "p.A"),
      ("functions", .array [.ofFields [("name", .text "f"), ("return_type", .text "p.B")]])]) :=
    .object _ (by simp [Plain.text, Plain.array, hfunction])
  exact .object _ (by simp [Plain.array, hclass])

theorem plain_longSpelling : Plain longSpelling := by
  have htype : Plain (.ofFields [("class", .text "p.B")]) := .object _ (by simp [Plain.text])
  have hfunction : Plain (.ofFields [("name", .text "f"),
      ("return_type", .ofFields [("class", .text "p.B")])]) :=
    .object _ (by simp [Plain.text, htype])
  have hclass : Plain (.ofFields [("functions", .array [.ofFields [("name", .text "f"),
      ("return_type", .ofFields [("class", .text "p.B")])]]), ("fq_name", .text "p.A")]) :=
    .object _ (by simp [Plain.text, Plain.array, hfunction])
  exact .object _ (by simp [Plain.text, Plain.array, hclass])

/-- Both spellings are read as the same unit. -/
theorem CompilationUnit.read?_eq_of_respelled_shortSpelling :
    Json.read? shortSpelling.print = some shortSpelling ∧
      Json.read? longSpelling.print = some longSpelling ∧ shortSpelling.distinctKeys ∧
      shortSpelling.nesting ≤ 127 ∧ longSpelling.nesting ≤ 127 ∧
      Respelled .unit shortSpelling longSpelling ∧
      (CompilationUnit.read? shortSpelling.print).isSome ∧
      CompilationUnit.read? shortSpelling.print = CompilationUnit.read? longSpelling.print := by
  have hshort := Json.read?_print plain_shortSpelling
  have hlong := Json.read?_print plain_longSpelling
  have hdistinct : shortSpelling.distinctKeys := by decide +kernel
  have hnesting : shortSpelling.nesting ≤ 127 := by decide +kernel
  have hnesting' : longSpelling.nesting ≤ 127 := by decide +kernel
  refine ⟨hshort, hlong, hdistinct, hnesting, hnesting', respelled_shortSpelling, ?_,
    CompilationUnit.read?_eq_of_respelled hshort hlong hdistinct hnesting hnesting'
      respelled_shortSpelling⟩
  rw [CompilationUnit.read?, hshort]
  decide +kernel

end Wiring
