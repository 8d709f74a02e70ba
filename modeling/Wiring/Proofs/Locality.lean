import Wiring.Proofs.DeclaredEdges
import Wiring.Proofs.Reference

/-!
# Classes one at a time

What a standard generator makes of a class depends on the class, on the settings and on which types
are strict supertypes of which others. It looks at nothing else in the unit.

* `Hierarchy.Agrees`, `Context.Agrees`: the same strict supertypes, and the same settings as well;
* `generateBindings_congr`, `generateProvisions_congr`, `generateAutoWire_congr`: the work on one
  class;
* `Generator.ActsAlike`: a generator picks the same classes in two contexts and makes the same of
  each;
* **`Generator.actsAlike_of_mem_builtin`**: the standard ones do so where the contexts agree.
-/

namespace Wiring

/-! ## Hierarchies that agree -/

/-- The same types are strict supertypes of a type. -/
def Hierarchy.Agrees (a b : Hierarchy) : Prop :=
  ∀ type candidate, a.isStrictSupertype type candidate = b.isStrictSupertype type candidate

namespace Hierarchy

variable {a b : Hierarchy}

theorem Agrees.refl (a : Hierarchy) : a.Agrees a := fun _ _ => rfl

/-- Tables with the same edges agree, in whatever order the edges stand. -/
theorem agrees_of_supertypes
    (h : ∀ type candidate, candidate ∈ a.supertypes type ↔ candidate ∈ b.supertypes type) :
    a.Agrees b := by
  have hedges : (fun type candidate => candidate ∈ a.supertypes type) =
      fun type candidate => candidate ∈ b.supertypes type := by
    funext type candidate
    exact propext (h type candidate)
  have hreaches : a.Reaches = b.Reaches := by
    unfold Reaches
    rw [hedges]
  intro type candidate
  rw [Bool.eq_iff_iff, isStrictSupertype_iff, isStrictSupertype_iff, hreaches]

end Hierarchy

theorem verifyBoundType_congr {a b : Hierarchy} (h : a.Agrees b) (element : Element)
    (memberType boundType : QualifiedName) :
    verifyBoundType element memberType boundType a =
      verifyBoundType element memberType boundType b := by
  unfold verifyBoundType
  rw [h memberType boundType]

theorem Member.bindings_congr {a b : Hierarchy} (h : a.Agrees b) (member : Member)
    (schema : Schema) : member.bindings schema a = member.bindings schema b := by
  have hbinding : member.binding? schema a = member.binding? schema b := by
    funext marker
    cases marker with
    | providesBinding boundType =>
      unfold binding?
      dsimp only
      rw [verifyBoundType_congr h]
    | contribution scope name => rfl
    | autoWire scope => rfl
  unfold bindings
  rw [hbinding]

/-! ## Contexts that agree -/

/-- The contexts have the same settings, and hierarchies that agree. -/
structure Context.Agrees (a b : Context) : Prop where
  schema : a.schema = b.schema
  suffixes : a.suffixes = b.suffixes
  scopePolicy : a.scopePolicy = b.scopePolicy
  factoriesOnly : a.factoriesOnly = b.factoriesOnly
  hierarchy : a.hierarchy.Agrees b.hierarchy

theorem Settings.agrees_toContext (settings : Settings) {a b : Hierarchy} (h : a.Agrees b) :
    (settings.toContext a).Agrees (settings.toContext b) :=
  ⟨rfl, rfl, rfl, rfl, h⟩

section

variable {a b : Context} (h : a.Agrees b) (c : ClassDeclaration)

include h

theorem generateBindings_congr : generateBindings c a = generateBindings c b := by
  have hbindings : c.bindings a = c.bindings b := by
    have hmember : ∀ (member : Member) (schema : Schema),
        member.bindings schema a.hierarchy = member.bindings schema b.hierarchy :=
      fun member schema => member.bindings_congr h.hierarchy schema
    unfold ClassDeclaration.bindings
    simp only [h.schema, hmember]
  unfold generateBindings
  rw [hbindings, h.suffixes]

theorem generateProvisions_congr : generateProvisions c a = generateProvisions c b := by
  unfold generateProvisions ClassDeclaration.memberProvisions
  rw [h.schema, h.suffixes, h.scopePolicy]

theorem generateAutoWire_congr : generateAutoWire c a = generateAutoWire c b := by
  unfold generateAutoWire
  rw [h.schema, h.suffixes]

end

/-! ## Generators -/

/-- A generator runs in both of two contexts or in none, picks classes by the same condition in
them, and makes the same of each class. -/
structure Generator.ActsAlike (generator : Generator) (a b : Context) : Prop where
  isApplicable_eq : generator.isApplicable a = generator.isApplicable b
  owners_eq : ∃ picks : ClassDeclaration → Bool, ∀ unit : CompilationUnit,
    generator.owners unit a = unit.owners picks ∧ generator.owners unit b = unit.owners picks
  generate_eq : ∀ c, generator.generate c a = generator.generate c b

namespace Generator

variable {a b : Context}

theorem actsAlike_ofWork (h : a.Agrees b) (name : String)
    {picks : Context → ClassDeclaration → Bool}
    {work : ClassDeclaration → Context → Except Failure (Option Kotlin.SourceFile)}
    (hpicks : picks a = picks b) (hwork : ∀ c, work c a = work c b) :
    (ofWork name picks work).ActsAlike a b where
  isApplicable_eq := congrArg Bool.not h.factoriesOnly
  owners_eq := ⟨picks a, fun unit => ⟨rfl, congrArg unit.owners hpicks.symm⟩⟩
  generate_eq c := congrArg Outcome.ofResult (hwork c)

/-- **A standard generator acts alike in contexts that agree.** -/
theorem actsAlike_of_mem_builtin (h : a.Agrees b) {generator : Generator}
    (hgenerator : generator ∈ builtin) : generator.ActsAlike a b := by
  rcases mem_builtin.1 hgenerator with rfl | rfl | rfl
  · exact actsAlike_ofWork h _ rfl (generateBindings_congr h)
  · refine actsAlike_ofWork h _ ?_ (generateProvisions_congr h)
    rw [h.schema]
  · refine actsAlike_ofWork h _ ?_ (generateAutoWire_congr h)
    rw [h.schema]

end Generator

end Wiring
