import Wiring.Binding
import Wiring.Proofs.ClassPaths
import Wiring.Proofs.Closure

/-!
# The supertypes that a unit declares

The table of a unit has the edges that its classes and its entries for types declared elsewhere
give, and no other ones, however often a type is declared.

* `CompilationUnit.mem_allClasses`: the classes of a unit are those that a path leads to;
* `CompilationUnit.Extends`: what a unit says about direct supertypes;
* `Hierarchy.mem_supertypes_add`, `Hierarchy.mem_supertypes_ofUnit`: the edges of a table;
* **`verifyBoundType_ofUnit`**: a bound type is accepted if and only if a path of declared edges
  leads to it from another type.
-/

namespace Wiring

/-! ## Declared edges -/

namespace CompilationUnit

variable (unit : CompilationUnit)

/-- The classes of a unit, at any depth, are those that a path leads to. -/
theorem mem_allClasses {c : ClassDeclaration} :
    c ∈ unit.allClasses ↔ ∃ path, unit.classAt? path = some c := by
  rw [← unit.map_snd_classPaths, List.mem_map]
  constructor
  · rintro ⟨⟨path, c⟩, hentry, rfl⟩
    exact ⟨path, mem_classPaths.1 hentry⟩
  · rintro ⟨path, hpath⟩
    exact ⟨(path, c), mem_classPaths.2 hpath, rfl⟩

/-- What a unit says about direct supertypes: a class at any depth names them, or an entry for a
type that is declared elsewhere. -/
inductive Extends : QualifiedName → QualifiedName → Prop where
  | declared (path : List Nat) (c : ClassDeclaration) (hpath : unit.classAt? path = some c)
    (supertype : QualifiedName) (hmem : supertype ∈ c.supertypes) : Extends c.name supertype
  | external (type : QualifiedName) (supertypes : List QualifiedName)
    (hentry : (type, supertypes) ∈ unit.externalSupertypes.entries)
    (supertype : QualifiedName) (hmem : supertype ∈ supertypes) : Extends type supertype

end CompilationUnit

/-! ## The edges of a table -/

namespace Hierarchy

variable {type a b : QualifiedName} {supertypes : List QualifiedName}

theorem mem_lookup_addTo (edges : List (QualifiedName × List QualifiedName)) :
    b ∈ ((addTo type supertypes edges).lookup a).getD [] ↔
      b ∈ (edges.lookup a).getD [] ∨ a = type ∧ b ∈ supertypes := by
  induction edges with
  | nil =>
    rw [addTo, List.lookup_cons]
    by_cases h : a = type
    · simp [h, mem_distinct]
    · simp [beq_false_of_ne h, h]
  | cons edge rest ih =>
    rw [addTo]
    by_cases htype : edge.1 = type
    · rw [if_pos htype, List.lookup_cons, List.lookup_cons]
      by_cases h : a = type
      · simp [h, htype, mem_addNew]
      · simp [htype, beq_false_of_ne h, h]
    · rw [if_neg htype, List.lookup_cons, List.lookup_cons]
      by_cases h : a = edge.1
      · simp [h, htype]
      · simpa [beq_false_of_ne h] using ih

/-- Adding supertypes of a type adds these edges, and leaves all others. -/
theorem mem_supertypes_add (hierarchy : Hierarchy) :
    b ∈ (hierarchy.add type supertypes).supertypes a ↔
      b ∈ hierarchy.supertypes a ∨ a = type ∧ b ∈ supertypes :=
  mem_lookup_addTo hierarchy.edges

theorem mem_supertypes_foldl_add (entries : List (QualifiedName × List QualifiedName))
    (hierarchy : Hierarchy) :
    b ∈ (entries.foldl (fun h entry => h.add entry.1 entry.2) hierarchy).supertypes a ↔
      b ∈ hierarchy.supertypes a ∨ ∃ entry ∈ entries, a = entry.1 ∧ b ∈ entry.2 := by
  induction entries generalizing hierarchy with
  | nil => simp
  | cons entry rest ih =>
    rw [List.foldl_cons, ih, mem_supertypes_add]
    simp [or_assoc]

/-- **The table of a unit has exactly the edges that the unit declares.** -/
theorem mem_supertypes_ofUnit (unit : CompilationUnit) :
    b ∈ (ofUnit unit).supertypes a ↔ unit.Extends a b := by
  rw [ofUnit, mem_supertypes_foldl_add]
  constructor
  · rintro (hnone | ⟨entry, hentry, rfl, hmem⟩)
    · cases hnone
    · rcases List.mem_append.1 hentry with hexternal | hdeclared
      · exact .external entry.1 entry.2 hexternal b hmem
      · obtain ⟨c, hc, rfl⟩ := List.mem_map.1 hdeclared
        obtain ⟨path, hpath⟩ := unit.mem_allClasses.1 hc
        exact .declared path c hpath b hmem
  · rintro (⟨path, c, hpath, _, hmem⟩ | ⟨_, list, hentry, _, hmem⟩)
    · have hc : c ∈ unit.allClasses := unit.mem_allClasses.2 ⟨path, hpath⟩
      exact .inr ⟨(c.name, c.supertypes),
        List.mem_append_right _ (List.mem_map_of_mem hc), rfl, hmem⟩
    · exact .inr ⟨(a, list), List.mem_append_left _ hentry, rfl, hmem⟩

theorem reaches_ofUnit (unit : CompilationUnit) :
    (ofUnit unit).Reaches = Relation.TransGen unit.Extends := by
  have hedge : (fun a b => b ∈ (ofUnit unit).supertypes a) = unit.Extends := by
    funext a b
    exact propext (mem_supertypes_ofUnit unit)
  rw [Reaches, hedge]

end Hierarchy

/-! ## Bound types -/

/-- **A bound type is accepted over the table of a unit** if and only if it is another type than
that of the member and a path of declared edges, not an empty one, leads from that type to it. Any
other bound type is a failure of the member. -/
theorem verifyBoundType_ofUnit (unit : CompilationUnit) (element : Element)
    (memberType boundType : QualifiedName) :
    (verifyBoundType element memberType boundType (.ofUnit unit) = .ok () ↔
      boundType ≠ memberType ∧ Relation.TransGen unit.Extends memberType boundType) ∧
    (verifyBoundType element memberType boundType (.ofUnit unit) =
        .error (.invalidBoundType element boundType memberType) ↔
      ¬(boundType ≠ memberType ∧ Relation.TransGen unit.Extends memberType boundType)) := by
  rw [← Hierarchy.reaches_ofUnit, ← Hierarchy.isStrictSupertype_iff, verifyBoundType]
  split <;> simp_all

end Wiring
