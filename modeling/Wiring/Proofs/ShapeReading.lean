import Wiring.Proofs.JsonMembers
import Wiring.Proofs.Spellings

/-!
# What is read at a place

The readers of a corpus, one for each shape of a place. They differ in what they make of a value,
but there are few ways in which they look at it: field by field, at its only member, at its items,
or at the value as a whole. How many levels are left does not matter, as long as there are enough.

* `Shape.Value`, `Shape.read`: what is made of a value;
* `Shape.Alike`: two values that are read alike;
* `Shape.ReadsPlain`: readers of texts, truth values, numbers and kinds;
* `Shape.FieldAlike`, `Shape.RecordAlike`: what two objects give for a field, and for all of them;
* `Shape.IsRecord`, `Shape.IsSingle`, `Shape.isRecord_or_isSingle`: shapes that are read field by
  field, and shapes that are read from one member;
* `Shape.alike_of_nesting_eq_zero`: values without parts.
-/

namespace Wiring

open Json

/-! ## What is read at a place -/

/-- A value that may be a text, a truth value, a number or the name of a kind. -/
def Json.plain? : Json → Option Json
  | .array _ => none
  | .object [(key, .null)] => some (.object [(key, .null)])
  | .object _ => none
  | value => some value

/-- The class and the name of an entry of an enumeration. -/
def enumEntryOfJson? : Nat → Json → Option (QualifiedName × String)
  | 0, _ => none
  | _ + 1, json => do
    let record ← record? ["class", "entry"] json
    let enumClass ← record.required? "class" QualifiedName.ofJson?
    let entry ← record.required? "entry" text?
    return (enumClass, entry)

/-- The classes nested in a class are read as any list. -/
theorem ClassDeclaration.ofJson?_succ (depth : Nat) (json : Json) :
    ClassDeclaration.ofJson? (depth + 1) json =
      ClassDeclaration.ofRecord? depth (listOf? ClassDeclaration.ofJson? depth) json := by
  cases depth with
  | zero =>
    rw [ClassDeclaration.ofJson?]
    rfl
  | succ depth =>
    rw [ClassDeclaration.ofJson?]
    congr 1
    funext value
    cases value <;> rfl

namespace Shape

/-- What is made of a value of a shape. -/
@[reducible] def Value : Shape → Type
  | unit => CompilationUnit
  | classDeclaration => ClassDeclaration
  | function => FunctionDeclaration
  | property => PropertyDeclaration
  | annotation => Annotation
  | argument => AnnotationArgument
  | value => AnnotationValue
  | enumEntry => QualifiedName × String
  | type => TypeRef
  | typeArguments => List (TypeArgument TypeRef)
  | typeArgument => TypeArgument TypeRef
  | supertypeTable => NameMap (List QualifiedName)
  | list item => List item.Value
  | name => QualifiedName
  | plain => Json

/-- What is made of a value within a number of levels. -/
def read : (shape : Shape) → Nat → Json → Option shape.Value
  | unit => CompilationUnit.ofJson?
  | classDeclaration => ClassDeclaration.ofJson?
  | function => FunctionDeclaration.ofJson?
  | property => PropertyDeclaration.ofJson?
  | annotation => Annotation.ofJson?
  | argument => AnnotationArgument.ofJson?
  | value => AnnotationValue.ofJson?
  | enumEntry => enumEntryOfJson?
  | type => TypeRef.ofKept?
  | typeArguments => fun depth =>
    listOf? (fun _ => TypeRef.argumentOfJson? (TypeRef.ofKept? depth)) 1
  | typeArgument => fun depth => TypeRef.argumentOfJson? (TypeRef.ofKept? depth)
  | supertypeTable => supertypeTableOfJson?
  | list item => listOf? item.read
  | name => fun _ => QualifiedName.ofJson?
  | plain => fun _ => Json.plain?

/-- Two values are read alike, whatever the number of levels, as long as it is enough for each. -/
structure Alike (shape : Shape) (a b : Json) : Prop where
  read {n m : Nat} : a.nesting ≤ n → b.nesting ≤ m → shape.read n a = shape.read m b
  kept {n m : Nat} : a.nesting ≤ n → b.nesting ≤ m → a.kept n = b.kept m

namespace Alike

variable {shape : Shape} {a b c : Json}

theorem symm (h : shape.Alike a b) : shape.Alike b a where
  read hn hm := (h.read hm hn).symm
  kept hn hm := (h.kept hm hn).symm

theorem trans (h : shape.Alike a b) (h' : shape.Alike b c) : shape.Alike a c where
  read hn hm := (h.read hn (Nat.le_refl _)).trans (h'.read (Nat.le_refl _) hm)
  kept hn hm := (h.kept hn (Nat.le_refl _)).trans (h'.kept (Nat.le_refl _) hm)

end Alike

/-! ## Plain values -/

/-- The reading of a plain value, which is no array and no object but the name of a kind. -/
structure ReadsPlain {α : Type} (read : Json → Option α) : Prop where
  array (items : List Json) : read (.array items) = none
  object (members : List (Quoted × Json)) (h : ∀ key, members ≠ [(key, .null)]) :
    read (.object members) = none

theorem readsPlain_text? : ReadsPlain text? := ⟨fun _ => rfl, fun _ _ => rfl⟩

theorem readsPlain_optionalText? : ReadsPlain optionalText? := ⟨fun _ => rfl, fun _ _ => rfl⟩

theorem readsPlain_bool? : ReadsPlain bool? := ⟨fun _ => rfl, fun _ _ => rfl⟩

theorem readsPlain_int? : ReadsPlain int? := ⟨fun _ => rfl, fun _ _ => rfl⟩

theorem readsPlain_kind (depth : Nat) : ReadsPlain (ClassKind.ofJson? depth) where
  array items := by
    cases depth <;> rfl
  object members h := by
    have hvariant : variant? depth (.object members) = none := by
      unfold variant?
      split
      · next heq => cases heq
      · next heq =>
        cases heq
        exact absurd rfl (h _)
      · rfl
    rw [ClassKind.ofJson?, hvariant, Option.bind_none]

theorem ReadsPlain.eq_bind {α : Type} {read : Json → Option α} (h : ReadsPlain read) (a : Json) :
    read a = (Json.plain? a).bind read := by
  unfold Json.plain?
  split
  · exact h.array _
  · rfl
  · next members hne => exact h.object members hne
  · rfl

/-- Values that are read alike as plain ones are read alike in every way. -/
theorem ReadsPlain.eq {α : Type} {read : Json → Option α} {a b : Json} (h : ReadsPlain read)
    (hab : plain.Alike a b) : read a = read b := by
  rw [h.eq_bind a, h.eq_bind b]
  exact congrArg (Option.bind · read) (hab.read (Nat.le_refl _) (Nat.le_refl _))

/-- One level is enough for the name of a kind. -/
theorem kind_eq {a : Json} {depth : Nat} (h : a.nesting ≤ depth) :
    ClassKind.ofJson? depth a = ClassKind.ofJson? 1 a := by
  cases a with
  | object members =>
    by_cases hkind : ∃ key, members = [(key, .null)]
    · obtain ⟨key, rfl⟩ := hkind
      obtain ⟨below, rfl, -⟩ := nesting_object_le.1 h
      rfl
    · have hno := not_exists.1 hkind
      rw [(readsPlain_kind depth).object members hno, (readsPlain_kind 1).object members hno]
  | _ => cases depth <;> rfl

/-! ## Fields -/

/-- The keys of the fields of a shape. -/
def keys (shape : Shape) : List String := shape.fields.map (·.key)

theorem nodup_keys (shape : Shape) : shape.keys.Nodup := by
  cases shape <;> simp [keys, fields]

theorem member_of_mem_fields {shape : Shape} {field : Field} (h : field ∈ shape.fields) :
    shape.member (some field.key) = field.shape := by
  revert h
  revert field
  cases shape <;> simp [fields, member]

theorem item_of_getElem?_fields {shape : Shape} {field : Field} {index : Nat}
    (h : shape.fields[index]? = some field) : shape.item index = field.shape := by
  cases shape with
  | list item => cases h
  | typeArguments => cases h
  | _ => exact congrArg (fun found => (found.map Field.shape).getD plain) h

theorem nesting_default_le {shape : Shape} : ∀ field ∈ shape.fields, ∀ default ∈ field.default?,
    default.nesting ≤ 1 ∧ default.kept 1 := by
  cases shape <;> simp [fields, nesting, itemNesting, memberNesting, kept, Json.text]

/-- What two objects give for a field: nothing, two values that are read alike, or nothing and the
value that is written out. -/
inductive FieldAlike (n m : Nat) (field : Field) : Option Json → Option Json → Prop
  | missing : FieldAlike n m field none none
  | given {a b} (ha : a.nesting ≤ n) (hb : b.nesting ≤ m) (h : field.shape.Alike a b) :
    FieldAlike n m field (some a) (some b)
  | writtenOut {default} (hdefault : field.default? = some default) (hm : default.nesting ≤ m) :
    FieldAlike n m field none (some default)

/-- Two records that are alike in all fields of a shape. -/
def RecordAlike (shape : Shape) (n m : Nat) (record record' : Record) : Prop :=
  ∀ field ∈ shape.fields,
    FieldAlike n m field (record.lookup field.key) (record'.lookup field.key)

namespace RecordAlike

variable {shape : Shape} {n m : Nat} {record record' : Record} {α : Type}
  {read read' : Json → Option α}

/-- A field that has to be there is read alike. -/
theorem required?_eq (h : shape.RecordAlike n m record record') (field : Field)
    (hfield : field ∈ shape.fields) (hdefault : field.default? = none)
    (hread : ∀ a b, a.nesting ≤ n → b.nesting ≤ m → field.shape.Alike a b → read a = read' b) :
    record.required? field.key read = record'.required? field.key read' := by
  unfold Record.required?
  match record.lookup field.key, record'.lookup field.key, h field hfield with
  | _, _, .missing => rfl
  | _, _, .given ha hb halike => exact hread _ _ ha hb halike
  | _, _, .writtenOut hsome _ => rw [hdefault] at hsome; cases hsome

/-- A field with a value of its own is read alike, if that value is what is written out. -/
theorem withDefault?_eq (h : shape.RecordAlike n m record record') (field : Field)
    (hfield : field ∈ shape.fields) {default : α}
    (hdefault : ∀ value, field.default? = some value → value.nesting ≤ m →
      read' value = some default)
    (hread : ∀ a b, a.nesting ≤ n → b.nesting ≤ m → field.shape.Alike a b → read a = read' b) :
    record.withDefault? field.key default read = record'.withDefault? field.key default read' := by
  unfold Record.withDefault?
  match record.lookup field.key, record'.lookup field.key, h field hfield with
  | _, _, .missing => rfl
  | _, _, .given ha hb halike => exact hread _ _ ha hb halike
  | _, _, .writtenOut hsome hm => exact (hdefault _ hsome hm).symm

end RecordAlike

/-! ## Shapes that are read field by field -/

/-- A value of a shape is put together from the fields of an object, or of an array if the shape may
be written as one, and records that are alike make the same value. -/
structure IsRecord (shape : Shape) (assemble : Nat → Record → Option shape.Value) : Prop where
  read_object (depth : Nat) (members : List (Quoted × Json)) :
    shape.read (depth + 1) (.object members) =
      (ofMembers? shape.keys members).bind (assemble depth)
  read_array :
    (∀ depth items, shape.read (depth + 1) (.array items) = none) ∨
      ∀ depth items, shape.read (depth + 1) (.array items) =
        (record? shape.keys (.array items)).bind (assemble depth)
  assemble_eq {n m : Nat} {record record' : Record} :
    shape.RecordAlike n m record record' → assemble n record = assemble m record'

/-- A list is read alike if it is empty by default. -/
theorem read_list_nil {shape : Shape} {m : Nat} (h : (Json.array []).nesting ≤ m) :
    (list shape).read m (.array []) = some [] := by
  obtain ⟨below, rfl, -⟩ := nesting_array_le.1 h
  rfl

namespace RecordAlike

variable {shape : Shape} {n m : Nat} {record record' : Record}

/-- A field that is a list is read alike. -/
theorem list_eq (h : shape.RecordAlike n m record record') {key : String} (item : Shape)
    (hfield : (⟨key, list item, some (.array [])⟩ : Field) ∈ shape.fields) :
    record.withDefault? key [] ((list item).read n) =
      record'.withDefault? key [] ((list item).read m) :=
  h.withDefault?_eq _ hfield (fun _ heq hm => by cases heq; exact read_list_nil hm)
    fun _ _ ha hb halike => halike.read ha hb

theorem name_eq (h : shape.RecordAlike n m record record') {key : String}
    (hfield : (⟨key, name, none⟩ : Field) ∈ shape.fields) :
    record.required? key QualifiedName.ofJson? = record'.required? key QualifiedName.ofJson? :=
  h.required?_eq _ hfield rfl fun _ _ ha hb halike => halike.read ha hb

theorem text_eq (h : shape.RecordAlike n m record record') {key : String}
    (hfield : (⟨key, plain, none⟩ : Field) ∈ shape.fields) :
    record.required? key text? = record'.required? key text? :=
  h.required?_eq _ hfield rfl fun _ _ _ _ halike => readsPlain_text?.eq halike

/-- A field that is a text is read alike if it is empty by default. -/
theorem text_eq_of_default (h : shape.RecordAlike n m record record') {key : String}
    (hfield : (⟨key, plain, some (.text "")⟩ : Field) ∈ shape.fields) :
    record.withDefault? key "" text? = record'.withDefault? key "" text? :=
  h.withDefault?_eq _ hfield (fun _ heq _ => by cases heq; rfl)
    fun _ _ _ _ halike => readsPlain_text?.eq halike

/-- A field that is a type is read alike. -/
theorem type_eq (h : shape.RecordAlike n m record record') {key : String}
    (hfield : (⟨key, type, none⟩ : Field) ∈ shape.fields) :
    record.required? key (TypeRef.ofJson? n) = record'.required? key (TypeRef.ofJson? m) :=
  h.required?_eq _ hfield rfl fun a b ha hb halike => by
    have hread : TypeRef.ofKept? n a = TypeRef.ofKept? m b := halike.read ha hb
    rw [TypeRef.ofJson?, TypeRef.ofJson?, halike.kept ha hb, hread]

end RecordAlike

theorem isRecord_unit : ∃ assemble, IsRecord unit assemble := by
  refine ⟨_, fun _ _ => rfl, .inr fun _ _ => rfl, fun {n m record record'} h => ?_⟩
  have hname : record.withDefault? "module_name" "" text? =
      record'.withDefault? "module_name" "" text? := h.text_eq_of_default (by simp [fields])
  have hclasses : record.withDefault? "classes" [] (listOf? ClassDeclaration.ofJson? n) =
      record'.withDefault? "classes" [] (listOf? ClassDeclaration.ofJson? m) :=
    h.list_eq classDeclaration (by simp [fields])
  have htable : record.withDefault? "external_supertypes" .empty (supertypeTableOfJson? n) =
      record'.withDefault? "external_supertypes" .empty (supertypeTableOfJson? m) := by
    refine h.withDefault?_eq ⟨_, supertypeTable, some (.object [])⟩ (by simp [fields])
      (fun _ heq hm => ?_) fun _ _ ha hb halike => halike.read ha hb
    cases heq
    obtain ⟨below, rfl, -⟩ := nesting_object_le.1 hm
    rfl
  simp only [hname, hclasses, htable]

theorem isRecord_classDeclaration : ∃ assemble, IsRecord classDeclaration assemble := by
  refine ⟨_, fun depth members => ClassDeclaration.ofJson?_succ depth (.object members),
    .inr fun depth items => ClassDeclaration.ofJson?_succ depth (.array items),
    fun {n m record record'} h => ?_⟩
  have hname : record.required? "fq_name" QualifiedName.ofJson? =
      record'.required? "fq_name" QualifiedName.ofJson? := h.name_eq (by simp [fields])
  have hpackage : record.withDefault? "package" "" text? =
      record'.withDefault? "package" "" text? := h.text_eq_of_default (by simp [fields])
  have hkind : record.withDefault? "kind" .plain (ClassKind.ofJson? n) =
      record'.withDefault? "kind" .plain (ClassKind.ofJson? m) := by
    refine h.withDefault?_eq ⟨_, plain, some (.text "class")⟩ (by simp [fields])
      (fun _ heq _ => ?_) fun a b ha hb halike => ?_
    · cases heq
      exact ClassKind.ofJson?_name .plain m
    · rw [kind_eq ha, kind_eq hb, (readsPlain_kind 1).eq halike]
  have hannotations : record.withDefault? "annotations" [] (annotationsOfJson? n) =
      record'.withDefault? "annotations" [] (annotationsOfJson? m) :=
    h.list_eq annotation (by simp [fields])
  have hsupertypes : record.withDefault? "supertypes" [] (namesOfJson? n) =
      record'.withDefault? "supertypes" [] (namesOfJson? m) := h.list_eq name (by simp [fields])
  have hfunctions : record.withDefault? "functions" [] (listOf? FunctionDeclaration.ofJson? n) =
      record'.withDefault? "functions" [] (listOf? FunctionDeclaration.ofJson? m) :=
    h.list_eq function (by simp [fields])
  have hproperties : record.withDefault? "properties" [] (listOf? PropertyDeclaration.ofJson? n) =
      record'.withDefault? "properties" [] (listOf? PropertyDeclaration.ofJson? m) :=
    h.list_eq property (by simp [fields])
  have hnested : record.withDefault? "nested" [] (listOf? ClassDeclaration.ofJson? n) =
      record'.withDefault? "nested" [] (listOf? ClassDeclaration.ofJson? m) :=
    h.list_eq classDeclaration (by simp [fields])
  simp only [hname, hpackage, hkind, hannotations, hsupertypes, hfunctions, hproperties, hnested]

theorem isRecord_function : ∃ assemble, IsRecord function assemble := by
  refine ⟨_, fun _ _ => rfl, .inr fun _ _ => rfl, fun {n m record record'} h => ?_⟩
  have hname : record.required? "name" text? = record'.required? "name" text? :=
    h.text_eq (by simp [fields])
  have htype : record.required? "return_type" (TypeRef.ofJson? n) =
      record'.required? "return_type" (TypeRef.ofJson? m) := h.type_eq (by simp [fields])
  have hannotations : record.withDefault? "annotations" [] (annotationsOfJson? n) =
      record'.withDefault? "annotations" [] (annotationsOfJson? m) :=
    h.list_eq annotation (by simp [fields])
  simp only [hname, htype, hannotations]

theorem isRecord_property : ∃ assemble, IsRecord property assemble := by
  refine ⟨_, fun _ _ => rfl, .inr fun _ _ => rfl, fun {n m record record'} h => ?_⟩
  have hname : record.required? "name" text? = record'.required? "name" text? :=
    h.text_eq (by simp [fields])
  have htype : record.required? "type" (TypeRef.ofJson? n) =
      record'.required? "type" (TypeRef.ofJson? m) := h.type_eq (by simp [fields])
  have hannotations : record.withDefault? "annotations" [] (annotationsOfJson? n) =
      record'.withDefault? "annotations" [] (annotationsOfJson? m) :=
    h.list_eq annotation (by simp [fields])
  simp only [hname, htype, hannotations]

theorem isRecord_annotation : ∃ assemble, IsRecord annotation assemble := by
  refine ⟨_, fun _ _ => rfl, .inr fun _ _ => rfl, fun {n m record record'} h => ?_⟩
  have hname : record.required? "fq_name" QualifiedName.ofJson? =
      record'.required? "fq_name" QualifiedName.ofJson? := h.name_eq (by simp [fields])
  have harguments : record.withDefault? "arguments" [] (listOf? AnnotationArgument.ofJson? n) =
      record'.withDefault? "arguments" [] (listOf? AnnotationArgument.ofJson? m) :=
    h.list_eq argument (by simp [fields])
  have hmeta : record.withDefault? "meta_annotations" [] (namesOfJson? n) =
      record'.withDefault? "meta_annotations" [] (namesOfJson? m) :=
    h.list_eq name (by simp [fields])
  simp only [hname, harguments, hmeta]

theorem isRecord_argument : ∃ assemble, IsRecord argument assemble := by
  refine ⟨_, fun _ _ => rfl, .inr fun _ _ => rfl, fun {n m record record'} h => ?_⟩
  have hname : record.withDefault? "name" none optionalText? =
      record'.withDefault? "name" none optionalText? :=
    h.withDefault?_eq ⟨_, plain, some .null⟩ (by simp [fields])
      (fun _ heq _ => by cases heq; rfl) fun _ _ _ _ halike => readsPlain_optionalText?.eq halike
  have hvalue : record.required? "value" (AnnotationValue.ofJson? n) =
      record'.required? "value" (AnnotationValue.ofJson? m) :=
    h.required?_eq ⟨_, value, none⟩ (by simp [fields]) rfl
      fun _ _ ha hb halike => halike.read ha hb
  simp only [hname, hvalue]

theorem isRecord_enumEntry : ∃ assemble, IsRecord enumEntry assemble := by
  refine ⟨_, fun _ _ => rfl, .inr fun _ _ => rfl, fun {n m record record'} h => ?_⟩
  have hclass : record.required? "class" QualifiedName.ofJson? =
      record'.required? "class" QualifiedName.ofJson? := h.name_eq (by simp [fields])
  have hentry : record.required? "entry" text? = record'.required? "entry" text? :=
    h.text_eq (by simp [fields])
  simp only [hclass, hentry]

/-- A type is read from an object and never from an array. -/
theorem isRecord_type : ∃ assemble, IsRecord type assemble := by
  refine ⟨_, fun _ _ => rfl, .inl fun _ _ => rfl, fun {n m record record'} h => ?_⟩
  have hclass : record.required? "class" QualifiedName.ofJson? =
      record'.required? "class" QualifiedName.ofJson? := h.name_eq (by simp [fields])
  have harguments : record.withDefault? "arguments" [] (typeArguments.read n) =
      record'.withDefault? "arguments" [] (typeArguments.read m) :=
    h.withDefault?_eq ⟨_, typeArguments, some (.array [])⟩ (by simp [fields])
      (fun _ heq _ => by cases heq; rfl) fun _ _ ha hb halike => halike.read ha hb
  have hnullable : record.withDefault? "nullable" false bool? =
      record'.withDefault? "nullable" false bool? :=
    h.withDefault?_eq ⟨_, plain, some (.bool false)⟩ (by simp [fields])
      (fun _ heq _ => by cases heq; rfl) fun _ _ _ _ halike => readsPlain_bool?.eq halike
  simp only [read] at harguments
  simp only [hclass, harguments, hnullable]

/-! ## Shapes that are read from one member -/

/-- A value of a shape is read from an object with one member, if from an object at all, and nothing
is left out in such an object. -/
structure IsSingle (shape : Shape) (ofMember? : Nat → Quoted → Json → Option shape.Value) :
    Prop where
  default?_eq (field : Field) : field ∈ shape.fields → field.default? = none
  read_single (depth : Nat) (key : Quoted) (value : Json) :
    shape.read (depth + 1) (.object [(key, value)]) = ofMember? depth key value
  read_other (depth : Nat) (members : List (Quoted × Json))
    (h : ∀ member, members ≠ [member]) : shape.read (depth + 1) (.object members) = none
  ofMember?_eq {n m : Nat} {key : Quoted} {a b : Json} : a.nesting ≤ n → b.nesting ≤ m →
    (shape.member key).Alike a b → ofMember? n key a = ofMember? m key b

/-- The value of an annotation's argument that a member stands for. -/
def valueOfMember? (depth : Nat) : Quoted → Json → Option AnnotationValue
  | some "array", json => (listOf? AnnotationValue.ofJson? depth json).map .array
  | some "enum", json => (enumEntryOfJson? depth json).map fun entry => .enumEntry entry.1 entry.2
  | some "class", json => (QualifiedName.ofJson? json).map .classLiteral
  | some "string", json => (text? json).map .string
  | some "bool", json => (bool? json).map .bool
  | some "int", json => ((int? json).filter inSignedWord).map .int
  | _, _ => none

theorem read_value_single (depth : Nat) (key : Quoted) (json : Json) :
    value.read (depth + 1) (.object [(key, json)]) = valueOfMember? depth key json := by
  unfold valueOfMember? read
  split
  · cases depth <;> cases json <;> simp [AnnotationValue.ofJson?, listOf?]
  · rw [AnnotationValue.ofJson?]
    cases depth with
    | zero => rfl
    | succ depth => simp [enumEntryOfJson?, Option.map_bind]
  · rw [AnnotationValue.ofJson?]
  · rw [AnnotationValue.ofJson?]
  · rw [AnnotationValue.ofJson?]
  · rw [AnnotationValue.ofJson?]
  · rw [AnnotationValue.ofJson?] <;> simp_all

theorem read_value_other {depth : Nat} {json : Json} (h : ∀ member, json ≠ .object [member]) :
    value.read depth json = none := by
  unfold read AnnotationValue.ofJson?
  split <;> first | rfl | exact absurd rfl (h _)

theorem isSingle_value : IsSingle value valueOfMember? where
  default?_eq := by simp [fields]
  read_single := read_value_single
  read_other depth members h := read_value_other fun member heq => h member (Json.object.inj heq)
  ofMember?_eq {n m key a b} ha hb halike := by
    unfold valueOfMember?
    split
    · have h : (list value).Alike a b := halike
      exact congrArg _ (h.read ha hb)
    · have h : enumEntry.Alike a b := halike
      exact congrArg _ (h.read ha hb)
    · have h : name.Alike a b := halike
      exact congrArg _ (h.read ha hb)
    · rw [readsPlain_text?.eq halike]
    · rw [readsPlain_bool?.eq halike]
    · rw [readsPlain_int?.eq halike]
    · rfl

/-- What a member with null stands for, and nothing if it has another value. -/
def ofNull? {α : Type} (a : α) (json : Json) : Option α :=
  (Json.plain? json).bind fun
    | .null => some a
    | _ => none

theorem ofNull?_of_ne {α : Type} {a : α} {json : Json} (h : json ≠ .null) :
    ofNull? a json = none := by
  cases json with
  | null => exact absurd rfl h
  | object members =>
    unfold ofNull? Json.plain?
    split <;> simp_all
  | _ => rfl

/-- The argument of a type that a member stands for. -/
def argumentOfMember? (depth : Nat) : Quoted → Json → Option (TypeArgument TypeRef)
  | some "star", json => ofNull? .star json
  | some "type", json => (TypeRef.ofKept? (depth + 1) json).map .type
  | _, _ => none

theorem isSingle_typeArgument : IsSingle typeArgument argumentOfMember? where
  default?_eq := by simp [fields]
  read_single depth key json := by
    unfold argumentOfMember?
    split
    · by_cases hnull : json = .null
      · subst hnull
        rfl
      · rw [ofNull?_of_ne hnull]
        unfold read TypeRef.argumentOfJson?
        split <;> simp_all
    · rfl
    · unfold read TypeRef.argumentOfJson?
      split <;> simp_all
  read_other depth members h := by
    unfold read TypeRef.argumentOfJson?
    split <;> simp_all
  ofMember?_eq {n m key a b} ha hb halike := by
    unfold argumentOfMember?
    split
    · have h : plain.Alike a b := halike
      exact congrArg (Option.bind · _) (h.read ha hb)
    · have h : type.Alike a b := halike
      exact congrArg _ (h.read (Nat.le_succ_of_le ha) (Nat.le_succ_of_le hb))
    · rfl

/-- A shape whose values are never read from objects. -/
theorem isSingle_of_read_object {shape : Shape}
    (hdefault : ∀ field ∈ shape.fields, field.default? = none)
    (h : ∀ depth members, shape.read (depth + 1) (.object members) = none) :
    IsSingle shape fun _ _ _ => none where
  default?_eq := hdefault
  read_single depth _ _ := h depth _
  read_other depth members _ := h depth members
  ofMember?_eq _ _ _ := rfl

theorem isSingle_plain :
    IsSingle plain fun _ key json => ofNull? (Json.object [(key, .null)]) json where
  default?_eq := by simp [fields]
  read_single depth key json := by
    by_cases hnull : json = .null
    · subst hnull
      rfl
    · rw [ofNull?_of_ne hnull]
      unfold read Json.plain?
      split <;> simp_all
  read_other depth members h := by
    unfold read Json.plain?
    split <;> simp_all
  ofMember?_eq {n m key a b} ha hb halike := by
    have h : plain.Alike a b := by cases key <;> exact halike
    exact congrArg (Option.bind · _) (h.read ha hb)

/-- A value of a shape is read field by field or from one member, unless it is a table. -/
theorem isRecord_or_isSingle (shape : Shape) :
    (∃ assemble, shape.IsRecord assemble) ∨ (∃ ofMember?, shape.IsSingle ofMember?) ∨
      shape = supertypeTable := by
  cases shape with
  | unit => exact .inl isRecord_unit
  | classDeclaration => exact .inl isRecord_classDeclaration
  | function => exact .inl isRecord_function
  | property => exact .inl isRecord_property
  | annotation => exact .inl isRecord_annotation
  | argument => exact .inl isRecord_argument
  | value => exact .inr (.inl ⟨_, isSingle_value⟩)
  | enumEntry => exact .inl isRecord_enumEntry
  | type => exact .inl isRecord_type
  | typeArgument => exact .inr (.inl ⟨_, isSingle_typeArgument⟩)
  | plain => exact .inr (.inl ⟨_, isSingle_plain⟩)
  | supertypeTable => exact .inr (.inr rfl)
  | typeArguments | list _ | name =>
    exact .inr (.inl ⟨_, isSingle_of_read_object (by simp [fields]) fun _ _ => rfl⟩)

/-! ## Values without parts -/

theorem read_typeArgument_string (depth : Nat) (text : Quoted) :
    typeArgument.read depth (.string text) = if text = some "star" then some .star else none := by
  unfold read TypeRef.argumentOfJson?
  split <;> simp_all

theorem array_nesting_ne_zero (items : List Json) : (Json.array items).nesting ≠ 0 := by
  simp [nesting]

theorem object_nesting_ne_zero (members : List (Quoted × Json)) :
    (Json.object members).nesting ≠ 0 := by
  simp [nesting]

/-- A value without parts is no class. -/
theorem read_classDeclaration_eq_none {a : Json} (h : a.nesting = 0) (depth : Nat) :
    classDeclaration.read depth a = none := by
  cases depth with
  | zero => rfl
  | succ depth =>
    cases a with
    | array items => exact absurd h (array_nesting_ne_zero items)
    | object members => exact absurd h (object_nesting_ne_zero members)
    | _ => exact ClassDeclaration.ofJson?_succ depth _

/-- A value without parts is read alike in all numbers of levels. -/
theorem alike_of_nesting_eq_zero {a : Json} (shape : Shape) (h : a.nesting = 0) :
    shape.Alike a a where
  read {n m} _ _ := by
    cases a with
    | array items => exact absurd h (array_nesting_ne_zero items)
    | object members => exact absurd h (object_nesting_ne_zero members)
    | _ =>
      cases shape with
      | classDeclaration =>
        exact (read_classDeclaration_eq_none h n).trans (read_classDeclaration_eq_none h m).symm
      | value => rw [read_value_other (by simp), read_value_other (by simp)]
      | typeArgument =>
        first
        | rw [read_typeArgument_string, read_typeArgument_string]
        | rfl
      | _ => cases n <;> cases m <;> rfl
  kept {n m} _ _ := by
    cases a with
    | array items => exact absurd h (array_nesting_ne_zero items)
    | object members => exact absurd h (object_nesting_ne_zero members)
    | _ => cases n <;> cases m <;> rfl

end Shape

end Wiring
