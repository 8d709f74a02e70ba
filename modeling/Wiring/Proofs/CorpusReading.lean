import Mathlib.Data.Option.Basic
import Wiring.Corpus.Encoder
import Wiring.Proofs.JsonRecords
import Wiring.Proofs.NameTable

/-!
# Reading written declarations

Every part of a unit is read as it was written, within as many levels as arrays and objects are
nested in it.

* `TypeRef.ofJson?_toJson`, `Annotation.ofJson?_toJson`: types and annotations;
* `ClassDeclaration.IsWordSized`: whole numbers that fit in words, which are the ones that are read;
* `ClassDeclaration.ofJson?_toJson`, `supertypeTableOfJson?_toJson`: classes and tables;
* **`CompilationUnit.ofJson?_toJson`**: whole units.
-/

namespace Wiring

open Json

/-! ## Types -/

theorem QualifiedName.ofJson?_toJson (name : QualifiedName) :
    QualifiedName.ofJson? name.toJson = some name := rfl

namespace TypeRef

mutual

theorem kept_toJson : ∀ (ref : TypeRef) (depth : Nat), ref.toJson.nesting ≤ depth →
    ref.toJson.kept depth
  | ⟨head, arguments, nullable⟩, depth, h => by
    rw [toJson] at h ⊢
    obtain ⟨below, rfl, hfields⟩ := nesting_ofFields_le.1 h
    simp only [List.forall_mem_cons] at hfields
    obtain ⟨inner, rfl, harguments⟩ := nesting_array_le.1 hfields.2.1
    simp [ofFields, kept, QualifiedName.toJson, Json.text,
      kept_argumentsToJson arguments inner harguments]
  termination_by structural ref => ref

theorem kept_argumentsToJson : ∀ (arguments : List (TypeArgument TypeRef)) (depth : Nat),
    (∀ value ∈ argumentsToJson arguments, value.nesting ≤ depth) →
      (argumentsToJson arguments).all (Json.kept depth)
  | [], _, _ => rfl
  | .star :: rest, depth, h => by
    rw [argumentsToJson, List.forall_mem_cons] at h
    rw [argumentsToJson, List.all_cons, kept_argumentsToJson rest depth h.2]
    simp [Json.text, kept]
  | .type ref :: rest, depth, h => by
    rw [argumentsToJson, List.forall_mem_cons] at h
    obtain ⟨below, rfl, hfields⟩ := nesting_ofFields_le.1 h.1
    rw [argumentsToJson, List.all_cons, kept_argumentsToJson rest (below + 1) h.2]
    simp only [List.forall_mem_cons] at hfields
    simp [ofFields, kept, kept_toJson ref below hfields.1]
  termination_by structural arguments => arguments

end

mutual

theorem ofKept?_toJson : ∀ (ref : TypeRef) (depth : Nat), ref.toJson.nesting ≤ depth →
    ofKept? depth ref.toJson = some ref
  | ⟨head, arguments, nullable⟩, depth, h => by
    rw [toJson] at h ⊢
    obtain ⟨below, rfl, hfields⟩ := nesting_ofFields_le.1 h
    simp only [List.forall_mem_cons] at hfields
    obtain ⟨inner, rfl, harguments⟩ := nesting_array_le.1 hfields.2.1
    have hlist := mapM_argumentsToJson arguments (inner + 1) fun value hvalue =>
      Nat.le_succ_of_le (harguments value hvalue)
    rw [ofFields, ofKept?, ofMembers?_map (by simp) (by simp)]
    simp [QualifiedName.ofJson?_toJson, listOf?, hlist, bool?]
  termination_by structural ref => ref

theorem mapM_argumentsToJson : ∀ (arguments : List (TypeArgument TypeRef)) (depth : Nat),
    (∀ value ∈ argumentsToJson arguments, value.nesting ≤ depth) →
      (argumentsToJson arguments).mapM (argumentOfJson? (ofKept? depth)) = some arguments
  | [], _, _ => rfl
  | .star :: rest, depth, h => by
    rw [argumentsToJson, List.forall_mem_cons] at h
    rw [argumentsToJson, List.mapM_cons, mapM_argumentsToJson rest depth h.2]
    rfl
  | .type ref :: rest, depth, h => by
    rw [argumentsToJson, List.forall_mem_cons] at h
    obtain ⟨below, rfl, hfields⟩ := nesting_ofFields_le.1 h.1
    simp only [List.forall_mem_cons] at hfields
    have href := ofKept?_toJson ref (below + 1) (Nat.le_succ_of_le hfields.1)
    rw [argumentsToJson, List.mapM_cons, mapM_argumentsToJson rest (below + 1) h.2]
    simp [ofFields, argumentOfJson?, href]
  termination_by structural arguments => arguments

end

/-- A written type is read within its nesting. -/
theorem ofJson?_toJson (ref : TypeRef) {depth : Nat} (h : ref.toJson.nesting ≤ depth) :
    TypeRef.ofJson? depth ref.toJson = some ref := by
  rw [ofJson?, if_pos (kept_toJson ref depth h), ofKept?_toJson ref depth h]

end TypeRef

/-! ## Annotations -/

mutual

/-- The whole numbers in the value of an annotation's argument. -/
def AnnotationValue.ints : AnnotationValue → List Int
  | .int value => [value]
  | .array items => AnnotationValue.itemInts items
  | _ => []
  termination_by structural value => value

/-- The whole numbers in the items of an array. -/
def AnnotationValue.itemInts : List AnnotationValue → List Int
  | [] => []
  | item :: items => item.ints ++ AnnotationValue.itemInts items
  termination_by structural items => items

end

/-- The whole numbers in the arguments of an annotation. -/
def Annotation.ints (ann : Annotation) : List Int := ann.arguments.flatMap (·.value.ints)

mutual

theorem AnnotationValue.ofJson?_toJson : ∀ (value : AnnotationValue) (depth : Nat),
    (∀ n ∈ value.ints, inSignedWord n) → value.toJson.nesting ≤ depth →
      AnnotationValue.ofJson? depth value.toJson = some value
  | .classLiteral name, depth, _, h => by
    rw [toJson] at h ⊢
    obtain ⟨below, rfl, -⟩ := nesting_ofFields_le.1 h
    simp [ofFields, ofJson?, QualifiedName.ofJson?_toJson]
  | .string text, depth, _, h => by
    rw [toJson] at h ⊢
    obtain ⟨below, rfl, -⟩ := nesting_ofFields_le.1 h
    simp [ofFields, ofJson?, Json.text, text?]
  | .int value, depth, hints, h => by
    rw [toJson] at h ⊢
    obtain ⟨below, rfl, -⟩ := nesting_ofFields_le.1 h
    have hword : inSignedWord value := hints value (by simp [ints])
    simp [ofFields, ofJson?, Json.int, int?, Numeral.toInt?_ofInt, Option.filter, hword]
  | .bool value, depth, _, h => by
    rw [toJson] at h ⊢
    obtain ⟨below, rfl, -⟩ := nesting_ofFields_le.1 h
    simp [ofFields, ofJson?, bool?]
  | .enumEntry enumClass entry, depth, _, h => by
    rw [toJson] at h ⊢
    obtain ⟨below, rfl, hfields⟩ := nesting_ofFields_le.1 h
    simp only [List.forall_mem_cons] at hfields
    obtain ⟨inner, rfl, -⟩ := nesting_ofFields_le.1 hfields.1
    have hrecord : record? ["class", "entry"]
        (.ofFields [("class", enumClass.toJson), ("entry", .text entry)]) = _ :=
      record?_ofFields (by simp) (by simp)
    rw [ofFields, List.map_cons, List.map_nil, ofJson?, hrecord]
    simp [QualifiedName.ofJson?_toJson, Json.text, text?]
  | .array items, depth, hints, h => by
    rw [toJson] at h ⊢
    obtain ⟨below, rfl, hfields⟩ := nesting_ofFields_le.1 h
    simp only [List.forall_mem_cons] at hfields
    obtain ⟨inner, rfl, hitems⟩ := nesting_array_le.1 hfields.1
    have hlist := AnnotationValue.mapM_itemsToJson items inner hints hitems
    simp [ofFields, ofJson?, hlist]
  termination_by structural value => value

theorem AnnotationValue.mapM_itemsToJson : ∀ (items : List AnnotationValue) (depth : Nat),
    (∀ n ∈ itemInts items, inSignedWord n) →
      (∀ value ∈ itemsToJson items, value.nesting ≤ depth) →
        (itemsToJson items).mapM (AnnotationValue.ofJson? depth) = some items
  | [], _, _, _ => rfl
  | item :: items, depth, hints, h => by
    rw [itemInts, List.forall_mem_append] at hints
    rw [itemsToJson, List.forall_mem_cons] at h
    rw [itemsToJson, List.mapM_cons, AnnotationValue.ofJson?_toJson item depth hints.1 h.1,
      AnnotationValue.mapM_itemsToJson items depth hints.2 h.2]
    rfl
  termination_by structural items => items

end

theorem AnnotationArgument.ofJson?_toJson (argument : AnnotationArgument) {depth : Nat}
    (hints : ∀ n ∈ argument.value.ints, inSignedWord n) (h : argument.toJson.nesting ≤ depth) :
    AnnotationArgument.ofJson? depth argument.toJson = some argument := by
  obtain ⟨name, value⟩ := argument
  rw [toJson] at h ⊢
  obtain ⟨below, rfl, hfields⟩ := nesting_ofFields_le.1 h
  simp only [List.forall_mem_cons] at hfields
  have hvalue := AnnotationValue.ofJson?_toJson value below hints hfields.2.1
  have hname : optionalText? ((name.map Json.text).getD .null) = some name := by
    cases name <;> rfl
  rw [ofJson?, record?_ofFields (by simp) (by simp)]
  simp [hname, hvalue]

theorem namesOfJson?_namesToJson (names : List QualifiedName) {depth : Nat}
    (h : (namesToJson names).nesting ≤ depth) :
    namesOfJson? depth (namesToJson names) = some names :=
  listOf?_map (fun name _ _ _ => name.ofJson?_toJson) h

theorem Annotation.ofJson?_toJson (ann : Annotation) {depth : Nat}
    (hints : ∀ n ∈ ann.ints, inSignedWord n) (h : ann.toJson.nesting ≤ depth) :
    Annotation.ofJson? depth ann.toJson = some ann := by
  rw [toJson] at h ⊢
  obtain ⟨below, rfl, hfields⟩ := nesting_ofFields_le.1 h
  simp only [List.forall_mem_cons] at hfields
  have harguments : listOf? AnnotationArgument.ofJson? below _ = some ann.arguments :=
    listOf?_map (fun argument hargument _ hle => argument.ofJson?_toJson
      (fun n hn => hints n (List.mem_flatMap_of_mem hargument hn)) hle) hfields.2.1
  have hmeta := namesOfJson?_namesToJson ann.metaAnnotations hfields.2.2.1
  rw [ofJson?, record?_ofFields (by simp) (by simp)]
  simp [QualifiedName.ofJson?_toJson, harguments, hmeta]

theorem annotationsOfJson?_annotationsToJson (annotations : List Annotation) {depth : Nat}
    (hints : ∀ ann ∈ annotations, ∀ n ∈ ann.ints, inSignedWord n)
    (h : (annotationsToJson annotations).nesting ≤ depth) :
    annotationsOfJson? depth (annotationsToJson annotations) = some annotations :=
  listOf?_map (fun ann hann _ hle => ann.ofJson?_toJson (hints ann hann) hle) h

/-! ## Classes -/

theorem FunctionDeclaration.ofJson?_toJson (function : FunctionDeclaration) {depth : Nat}
    (hints : ∀ ann ∈ function.annotations, ∀ n ∈ ann.ints, inSignedWord n)
    (h : function.toJson.nesting ≤ depth) :
    FunctionDeclaration.ofJson? depth function.toJson = some function := by
  rw [toJson] at h ⊢
  obtain ⟨below, rfl, hfields⟩ := nesting_ofFields_le.1 h
  simp only [List.forall_mem_cons] at hfields
  have htype := function.returnType.ofJson?_toJson hfields.2.1
  have hannotations := annotationsOfJson?_annotationsToJson function.annotations hints hfields.2.2.1
  rw [ofJson?, record?_ofFields (by simp) (by simp)]
  simp [text?_text, htype, hannotations]

theorem PropertyDeclaration.ofJson?_toJson (property : PropertyDeclaration) {depth : Nat}
    (hints : ∀ ann ∈ property.annotations, ∀ n ∈ ann.ints, inSignedWord n)
    (h : property.toJson.nesting ≤ depth) :
    PropertyDeclaration.ofJson? depth property.toJson = some property := by
  rw [toJson] at h ⊢
  obtain ⟨below, rfl, hfields⟩ := nesting_ofFields_le.1 h
  simp only [List.forall_mem_cons] at hfields
  have htype := property.type.ofJson?_toJson hfields.2.1
  have hannotations := annotationsOfJson?_annotationsToJson property.annotations hints hfields.2.2.1
  rw [ofJson?, record?_ofFields (by simp) (by simp)]
  simp [text?_text, htype, hannotations]

theorem ClassKind.ofJson?_name (kind : ClassKind) (depth : Nat) :
    ClassKind.ofJson? depth (.text kind.name) = some kind := by
  have hvariant : variant? depth (.text kind.name) = some kind.name := by
    cases depth <;> rfl
  rw [ofJson?, hvariant, Option.bind_some, kind.lookup_name]

/-- The annotations on a class and on its members. -/
def ClassDeclaration.allAnnotations (c : ClassDeclaration) : List Annotation :=
  c.annotations ++ c.functions.flatMap (·.annotations) ++ c.properties.flatMap (·.annotations)

/-- Whether the whole numbers in the annotations on a class and on its members fit in words. -/
def ClassDeclaration.IsWordSized (c : ClassDeclaration) : Prop :=
  ∀ ann ∈ c.allAnnotations, ∀ n ∈ ann.ints, inSignedWord n

instance (c : ClassDeclaration) : Decidable c.IsWordSized :=
  inferInstanceAs (Decidable (∀ ann ∈ _, ∀ n ∈ _, _ = true))

mutual

theorem ClassDeclaration.ofJson?_toJson : ∀ (c : ClassDeclaration) (depth : Nat),
    (∀ d ∈ c.family, d.IsWordSized) → c.toJson.nesting ≤ depth →
      ClassDeclaration.ofJson? depth c.toJson = some c
  | c@⟨name, package, kind, annotations, supertypes, functions, properties, nested⟩, depth, hints,
      h => by
    rw [toJson] at h ⊢
    rw [family, List.forall_mem_cons] at hints
    obtain ⟨below, rfl, hfields⟩ := nesting_ofFields_le.1 h
    simp only [List.forall_mem_cons] at hfields
    obtain ⟨-, -, -, hannotations, hsupertypes, hfunctions, hproperties, hnested, -⟩ := hfields
    -- The object and the array of nested classes take one level each of what is left.
    obtain ⟨inner, rfl, hclasses⟩ := nesting_array_le.1 hnested
    obtain ⟨hown, hinner⟩ := hints
    simp only [IsWordSized, allAnnotations, List.forall_mem_append, List.forall_mem_flatMap] at hown
    have hann := annotationsOfJson?_annotationsToJson annotations hown.1.1 hannotations
    have hsup := namesOfJson?_namesToJson supertypes hsupertypes
    have hfun : listOf? FunctionDeclaration.ofJson? (inner + 1) _ = some functions :=
      listOf?_map (fun function hmem _ hle => function.ofJson?_toJson (hown.1.2 function hmem) hle)
        hfunctions
    have hprop : listOf? PropertyDeclaration.ofJson? (inner + 1) _ = some properties :=
      listOf?_map (fun property hmem _ hle => property.ofJson?_toJson (hown.2 property hmem) hle)
        hproperties
    have hkind := kind.ofJson?_name (inner + 1)
    have hnest := ClassDeclaration.mapM_listToJson nested inner hinner hclasses
    rw [ofJson?, ofRecord?, record?_ofFields (by simp) (by simp [fields])]
    simp [QualifiedName.ofJson?_toJson, text?_text, hann, hsup, hfun, hprop, hkind, hnest]
  termination_by structural c => c

theorem ClassDeclaration.mapM_listToJson : ∀ (classes : List ClassDeclaration) (depth : Nat),
    (∀ d ∈ families classes, d.IsWordSized) →
      (∀ value ∈ listToJson classes, value.nesting ≤ depth) →
        (listToJson classes).mapM (ClassDeclaration.ofJson? depth) = some classes
  | [], _, _, _ => rfl
  | c :: classes, depth, hints, h => by
    rw [families, List.forall_mem_append] at hints
    rw [listToJson, List.forall_mem_cons] at h
    rw [listToJson, List.mapM_cons, ClassDeclaration.ofJson?_toJson c depth hints.1 h.1,
      ClassDeclaration.mapM_listToJson classes depth hints.2 h.2]
    rfl
  termination_by structural classes => classes

end

/-! ## Units -/

theorem NameMap.eq_of_entries {α : Type} {a b : NameMap α} (h : a.entries = b.entries) : a = b := by
  cases a
  cases b
  cases h
  rfl

theorem insertEntry_append {α : Type} {key : QualifiedName} {value : α}
    {entries : List (QualifiedName × α)} (h : ∀ entry ∈ entries, entry.1 < key) :
    insertEntry key value entries = entries ++ [(key, value)] := by
  induction entries with
  | nil => rfl
  | cons entry rest ih =>
    obtain ⟨hentry, hrest⟩ := List.forall_mem_cons.1 h
    have hnot : ¬key < entry.1 := fun hlt =>
      QualifiedName.not_lt_self key (QualifiedName.lt_trans hlt hentry)
    rw [insertEntry, if_neg hnot, if_pos hentry, ih hrest, List.cons_append]

/-- A map is made of its entries: each goes to the end of those before it. -/
theorem NameMap.ofList_entries {α : Type} (map : NameMap α) : NameMap.ofList map.entries = map := by
  have hfold : ∀ (entries : List (QualifiedName × α)) (start : NameMap α),
      (start.entries ++ entries).Pairwise (·.1 < ·.1) →
        (entries.foldl (fun map entry => map.insert entry.1 entry.2) start).entries =
          start.entries ++ entries := by
    intro entries
    induction entries with
    | nil => simp
    | cons entry rest ih =>
      intro start hsorted
      -- The keys are sorted, so the next one comes after all that have been put in.
      have hlast : ∀ e ∈ start.entries, e.1 < entry.1 := fun e he =>
        (List.pairwise_append.1 hsorted).2.2 e he entry List.mem_cons_self
      have hinsert : (start.insert entry.1 entry.2).entries = start.entries ++ [entry] :=
        insertEntry_append hlast
      rw [List.foldl_cons, ih _ (by rw [hinsert]; simpa using hsorted), hinsert]
      simp
  exact eq_of_entries (hfold map.entries .empty map.sorted)

theorem supertypeTableOfJson?_toJson (table : NameMap (List QualifiedName)) {depth : Nat}
    (h : (supertypeTableToJson table).nesting ≤ depth) :
    supertypeTableOfJson? depth (supertypeTableToJson table) = some table := by
  rw [supertypeTableToJson] at h ⊢
  obtain ⟨below, rfl, hentries⟩ := nesting_ofFields_le.1 h
  rw [List.forall_mem_map] at hentries
  have hread : (table.entries.map fun entry => (some entry.1.text, namesToJson entry.2)).mapM
      (fun member : Quoted × Json => do
        return ((⟨← member.1⟩ : QualifiedName), ← namesOfJson? below member.2)) =
      some table.entries := by
    refine mapM_map_eq_some fun entry hentry => ?_
    rw [namesOfJson?_namesToJson entry.2 (hentries entry hentry)]
    rfl
  rw [ofFields, List.map_map, supertypeTableOfJson?]
  refine (congrArg (·.bind fun entries => some (NameMap.ofList entries)) hread).trans ?_
  rw [Option.bind_some, table.ofList_entries]

theorem CompilationUnit.ofJson?_toJson (unit : CompilationUnit) {depth : Nat}
    (hints : ∀ c ∈ unit.allClasses, c.IsWordSized) (h : unit.toJson.nesting ≤ depth) :
    CompilationUnit.ofJson? depth unit.toJson = some unit := by
  rw [toJson] at h ⊢
  obtain ⟨below, rfl, hfields⟩ := nesting_ofFields_le.1 h
  simp only [List.forall_mem_cons] at hfields
  obtain ⟨-, hclasses, htable, -⟩ := hfields
  obtain ⟨inner, rfl, hitems⟩ := nesting_array_le.1 hclasses
  have hlist : listOf? ClassDeclaration.ofJson? (inner + 1)
      (.array (ClassDeclaration.listToJson unit.classes)) = some unit.classes :=
    ClassDeclaration.mapM_listToJson unit.classes inner hints hitems
  have hsupertypes := supertypeTableOfJson?_toJson unit.externalSupertypes htable
  rw [ofJson?, record?_ofFields (by simp) (by simp)]
  simp [text?_text, hlist, hsupertypes]

end Wiring
