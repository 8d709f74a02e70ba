import Wiring.Proofs.Lines
import Wiring.Proofs.Templates
import Wiring.Proofs.WrittenInterfaces

/-!
# Templates of one line

The template of an annotation or of a member's declaration has no line ends in its texts, so that it
takes up one line, if there are none in the names and in the code that are given for it. In the
strings among the values of arguments there may be line ends.

* `AnnotationValue.entries`: the names of entries in a value;
* `Code.IsGiven`: code that is given for an annotation; `Code.HasOneLineTexts`;
* **`AnnotationUse.isOneLine_render`**, **`isOneLine_linesOf`**: annotations and members.
-/

namespace Wiring

/-! ## Entries -/

mutual

/-- The names of the entries of enumerations in a value. -/
def AnnotationValue.entries : AnnotationValue → List String
  | .classLiteral _ => []
  | .string _ => []
  | .int _ => []
  | .bool _ => []
  | .enumEntry _ entry => [entry]
  | .array items => AnnotationValue.listEntries items
  termination_by structural value => value

/-- The names of the entries of enumerations in values. -/
def AnnotationValue.listEntries : List AnnotationValue → List String
  | [] => []
  | value :: rest => value.entries ++ AnnotationValue.listEntries rest
  termination_by structural values => values

end

namespace Kotlin

open Text

namespace Code

/-! ## Code without line ends -/

/-- The code that may be given for an argument: texts of one line, class literals, values with
entries of one line, and any of these after each other. -/
inductive IsGiven : Code → Prop
  | empty : IsGiven []
  | literal (text : String) (h : IsOneLine text) : IsGiven (Code.literal text)
  | classLiteral (name : QualifiedName) : IsGiven (Code.classLiteral name)
  | value (value : AnnotationValue) (h : ∀ entry ∈ value.entries, IsOneLine entry) :
    IsGiven (ofValue value)
  | append (code other : Code) (hcode : IsGiven code) (hother : IsGiven other) :
    IsGiven (code ++ other)

/-- An argument may be given if its name and the entries in its value are of one line. -/
theorem isGiven_argumentCode {argument : AnnotationArgument}
    (hname : ∀ name ∈ argument.name, IsOneLine name)
    (hentries : ∀ entry ∈ argument.value.entries, IsOneLine entry) :
    IsGiven (AnnotationUse.argumentCode argument) := by
  obtain ⟨name, value⟩ := argument
  cases name with
  | none => exact .value value hentries
  | some name =>
    exact .append _ _ (.literal _ ((hname name rfl).append (by decide))) (.value value hentries)

/-- No text in the code has a line end. -/
def HasOneLineTexts (code : Code) : Prop := ∀ text, CodePart.literal text ∈ code → IsOneLine text

variable {code other : Code} {codes : List Code} {names : NameTable}

theorem hasOneLineTexts_nil : HasOneLineTexts [] := fun _ hmem => absurd hmem List.not_mem_nil

theorem hasOneLineTexts_literal {text : String} (h : IsOneLine text) :
    HasOneLineTexts (literal text) := by
  intro text' hmem
  obtain rfl : text' = text := by simpa [literal] using hmem
  exact h

theorem hasOneLineTexts_reference (name : QualifiedName) :
    HasOneLineTexts [.reference name] := by
  intro text hmem
  simp at hmem

theorem HasOneLineTexts.append (hcode : HasOneLineTexts code) (hother : HasOneLineTexts other) :
    HasOneLineTexts (code ++ other) := fun text hmem =>
  (List.mem_append.1 hmem).elim (hcode text) (hother text)

theorem hasOneLineTexts_joined {separator : String} (hseparator : IsOneLine separator)
    (h : ∀ code ∈ codes, HasOneLineTexts code) : HasOneLineTexts (joined separator codes) := by
  induction codes with
  | nil => exact hasOneLineTexts_nil
  | cons code codes ih =>
    obtain ⟨hcode, hcodes⟩ := List.forall_mem_cons.1 h
    cases codes with
    | nil => simpa [joined] using hcode
    | cons next codes =>
      rw [joined, List.intercalate_cons_cons]
      exact (hcode.append (hasOneLineTexts_literal hseparator)).append (ih hcodes)

/-- Such code is written in one line if the classes in it are. -/
theorem HasOneLineTexts.isOneLine_render (h : HasOneLineTexts code)
    (hnames : ∀ n ∈ code.classNames, IsOneLine (names.text n)) :
    IsOneLine (code.render names) := by
  refine isOneLine_join fun text htext => ?_
  obtain ⟨part, hpart, rfl⟩ := List.mem_map.1 htext
  cases part with
  | literal text => exact h text hpart
  | reference name => exact hnames name (List.mem_filterMap.2 ⟨_, hpart, rfl⟩)

mutual

theorem hasOneLineTexts_ofValue : ∀ value : AnnotationValue,
    (∀ entry ∈ value.entries, IsOneLine entry) → HasOneLineTexts (ofValue value)
  | .classLiteral name, _ =>
    (hasOneLineTexts_reference name).append (hasOneLineTexts_literal (by decide))
  | .string text, _ => hasOneLineTexts_literal (isOneLine_quote text)
  | .int value, _ => hasOneLineTexts_literal (isOneLine_toString value)
  | .bool value, _ => hasOneLineTexts_literal (by cases value <;> decide)
  | .enumEntry enumClass entry, h => by
    have hentry : IsOneLine entry := h entry (by simp [AnnotationValue.entries])
    rw [ofValue]
    exact (hasOneLineTexts_reference enumClass).append
      (hasOneLineTexts_literal (IsOneLine.append (by decide) hentry))
  | .array items, h => by
    rw [ofValue]
    exact ((hasOneLineTexts_literal (by decide)).append
      (hasOneLineTexts_ofItems items h)).append (hasOneLineTexts_literal (by decide))
  termination_by structural value => value

theorem hasOneLineTexts_ofItems : ∀ items : List AnnotationValue,
    (∀ entry ∈ AnnotationValue.listEntries items, IsOneLine entry) →
      HasOneLineTexts (ofItems items)
  | [], _ => hasOneLineTexts_nil
  | item :: rest, h => by
    rw [AnnotationValue.listEntries, List.forall_mem_append] at h
    rw [ofItems]
    exact (hasOneLineTexts_ofValue item h.1).append (hasOneLineTexts_ofFurther rest h.2)
  termination_by structural items => items

theorem hasOneLineTexts_ofFurther : ∀ items : List AnnotationValue,
    (∀ entry ∈ AnnotationValue.listEntries items, IsOneLine entry) →
      HasOneLineTexts (ofFurther items)
  | [], _ => hasOneLineTexts_nil
  | item :: rest, h => by
    rw [AnnotationValue.listEntries, List.forall_mem_append] at h
    rw [ofFurther]
    exact ((hasOneLineTexts_literal (by decide)).append (hasOneLineTexts_ofValue item h.1)).append
      (hasOneLineTexts_ofFurther rest h.2)
  termination_by structural items => items

end

theorem IsGiven.hasOneLineTexts (h : IsGiven code) : HasOneLineTexts code := by
  induction h with
  | empty => exact hasOneLineTexts_nil
  | literal text h => exact hasOneLineTexts_literal h
  | classLiteral name =>
    exact (hasOneLineTexts_reference name).append (hasOneLineTexts_literal (by decide))
  | value value h => exact hasOneLineTexts_ofValue value h
  | append code other _ _ ihcode ihother => exact ihcode.append ihother

end Code

open Code

variable {names : NameTable}

/-! ## Types and annotations -/

theorem TypeName.hasOneLineTexts_code (type : TypeName) : type.code.HasOneLineTexts := by
  induction type using TypeName.induction with
  | star => exact hasOneLineTexts_literal (by decide)
  | named name arguments nullable ih =>
    rw [code, codeAll_eq, angledCode]
    refine ((hasOneLineTexts_reference name).append ?_).append
      (hasOneLineTexts_literal (by cases nullable <;> decide))
    split
    · exact hasOneLineTexts_nil
    · refine ((hasOneLineTexts_literal (by decide)).append (hasOneLineTexts_joined (by decide)
        fun code hcode => ?_)).append (hasOneLineTexts_literal (by decide))
      obtain ⟨argument, hargument, rfl⟩ := List.mem_map.1 hcode
      exact ih argument hargument

variable {use : AnnotationUse}

theorem AnnotationUse.hasOneLineTexts_code (h : ∀ member ∈ use.members, IsGiven member) :
    use.code.HasOneLineTexts := by
  rw [code]
  refine ((hasOneLineTexts_literal ?_).append (hasOneLineTexts_reference use.name)).append ?_
  · cases use.useSite with
    | none => decide
    | some site => cases site <;> decide
  · split
    · exact hasOneLineTexts_nil
    · exact ((hasOneLineTexts_literal (by decide)).append (hasOneLineTexts_joined (by decide)
        fun member hmember => (h member hmember).hasOneLineTexts)).append
          (hasOneLineTexts_literal (by decide))

/-- **An annotation takes up one line.** -/
theorem AnnotationUse.isOneLine_render (h : ∀ member ∈ use.members, IsGiven member)
    (hnames : ∀ n ∈ use.classNames, IsOneLine (names.text n)) : IsOneLine (use.render names) := by
  rw [← use.render_code]
  exact (hasOneLineTexts_code h).isOneLine_render (use.classNames_code ▸ hnames)

/-! ## Members -/

theorem hasOneLineTexts_receiverCode (receiver : Option TypeName) :
    (receiverCode receiver).HasOneLineTexts := by
  cases receiver with
  | none => exact hasOneLineTexts_nil
  | some type =>
    rw [receiverCode]
    split
    · exact ((hasOneLineTexts_literal (by decide)).append type.hasOneLineTexts_code).append
        (hasOneLineTexts_literal (by decide))
    · exact type.hasOneLineTexts_code.append (hasOneLineTexts_literal (by decide))

theorem hasOneLineTexts_returnsCode (returns : Option TypeName) :
    (returnsCode returns).HasOneLineTexts := by
  cases returns with
  | none => exact hasOneLineTexts_nil
  | some type => exact (hasOneLineTexts_literal (by decide)).append type.hasOneLineTexts_code

/-- The name of a member. -/
def memberName : Property ⊕ Function → String
  | .inl property => property.name
  | .inr function => function.name

/-- The classes in a member. -/
def memberClassNames : Property ⊕ Function → List QualifiedName
  | .inl property => property.classNames
  | .inr function => function.classNames

/-- The annotations in an interface are its own and those of its members. -/
theorem Interface.annotationUses_eq (interface : Interface) :
    interface.annotationUses = interface.annotations ++ interface.members.flatMap memberUses := by
  simp [annotationUses, members, memberUses, List.flatMap_map]

/-- The classes in an interface are those of its annotations and of its members. -/
theorem Interface.classNames_eq (interface : Interface) :
    interface.classNames = interface.annotations.flatMap AnnotationUse.classNames ++
      interface.members.flatMap memberClassNames := by
  simp [classNames, members, memberClassNames, List.flatMap_map]

/-- The templates of the lines of a member. -/
def memberLineCodes : Property ⊕ Function → List Code
  | .inl property => property.lineCodes
  | .inr function => function.lineCodes

variable {member : Property ⊕ Function}

theorem hasOneLineTexts_memberLineCodes (hname : IsOneLine (memberName member))
    (huses : ∀ use ∈ memberUses member, ∀ code ∈ use.members, IsGiven code) :
    ∀ code ∈ memberLineCodes member, code.HasOneLineTexts := by
  have hannotations : ∀ code ∈ (memberUses member).map AnnotationUse.code,
      code.HasOneLineTexts := by
    intro code hcode
    obtain ⟨use, huse, rfl⟩ := List.mem_map.1 hcode
    exact AnnotationUse.hasOneLineTexts_code (huses use huse)
  cases member with
  | inl property =>
    refine List.forall_mem_append.2 ⟨hannotations, List.forall_mem_singleton.2 ?_⟩
    exact ((((hasOneLineTexts_literal (by decide)).append
      (hasOneLineTexts_receiverCode _)).append
        (hasOneLineTexts_literal (isOneLine_escape hname))).append
          (hasOneLineTexts_literal (by decide))).append property.type.hasOneLineTexts_code
  | inr function =>
    refine List.forall_mem_append.2 ⟨hannotations, List.forall_mem_singleton.2 ?_⟩
    exact ((((hasOneLineTexts_literal (by decide)).append
      (hasOneLineTexts_receiverCode _)).append
        (hasOneLineTexts_literal (isOneLine_escape hname))).append
          (hasOneLineTexts_literal (by decide))).append (hasOneLineTexts_returnsCode _)

theorem render_memberLineCodes (member : Property ⊕ Function) :
    (memberLineCodes member).map (Code.render names) = linesOf names member := by
  cases member with
  | inl property => exact property.render_lineCodes names
  | inr function => exact function.render_lineCodes names

theorem mem_memberClassNames {code : Code} (hcode : code ∈ memberLineCodes member)
    {n : QualifiedName} (hn : n ∈ code.classNames) : n ∈ memberClassNames member := by
  have hmem : n ∈ (memberLineCodes member).flatMap Code.classNames :=
    List.mem_flatMap.2 ⟨code, hcode, hn⟩
  cases member with
  | inl property => exact property.classNames_lineCodes.mem_iff.1 hmem
  | inr function => exact function.classNames_lineCodes.mem_iff.1 hmem

/-- **Each line of a member is one line.** -/
theorem isOneLine_linesOf (hname : IsOneLine (memberName member))
    (huses : ∀ use ∈ memberUses member, ∀ code ∈ use.members, IsGiven code)
    (hnames : ∀ n ∈ memberClassNames member, IsOneLine (names.text n)) :
    ∀ line ∈ linesOf names member, IsOneLine line := by
  rw [← render_memberLineCodes]
  intro line hline
  obtain ⟨code, hcode, rfl⟩ := List.mem_map.1 hline
  exact (hasOneLineTexts_memberLineCodes hname huses code hcode).isOneLine_render fun n hn =>
    hnames n (mem_memberClassNames hcode hn)

end Kotlin

end Wiring
