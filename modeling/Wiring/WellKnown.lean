import Wiring.QualifiedName

/-!
# Well-known names

The annotations and types of the injection container that generated code is written for.
-/

namespace Wiring.WellKnown

/-- The annotation of classes that provide values. -/
def providerModule : QualifiedName := ⟨"dagger.Module"⟩

/-- The annotation of members that make a value. -/
def provides : QualifiedName := ⟨"dagger.Provides"⟩

/-- The annotation of members that give a value another type. -/
def binds : QualifiedName := ⟨"dagger.Binds"⟩

/-- The type of what fills the members of an object. -/
def membersInjector : QualifiedName := ⟨"dagger.MembersInjector"⟩

/-- The annotation of values that go into a map. -/
def intoMap : QualifiedName := ⟨"dagger.multibindings.IntoMap"⟩

/-- The annotation that gives a class as the key in a map. -/
def classKey : QualifiedName := ⟨"dagger.multibindings.ClassKey"⟩

/-- The annotation that contributes an interface to a scope. -/
def contributesTo : QualifiedName := ⟨"com.squareup.anvil.annotations.ContributesTo"⟩

/-- The type that stands for a scope that is not given. -/
def unit : QualifiedName := ⟨"kotlin.Unit"⟩

end Wiring.WellKnown
