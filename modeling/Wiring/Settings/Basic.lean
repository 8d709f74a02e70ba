import Wiring.Generator

/-!
# Settings

What can be set for a run.

* `Toggles`: which of the standard generators run;
* `Settings`, with defaults for all of its fields;
* `Settings.toContext`: the context that generators get.
-/

namespace Wiring

/-- Which of the standard generators run. -/
structure Toggles where
  bindings : Bool := true
  provisions : Bool := true
  autoWire : Bool := true
  deriving DecidableEq

/-- Whether the generator of a name runs. Only standard generators can be switched off. -/
def Toggles.isEnabled (toggles : Toggles) (generator : String) : Bool :=
  if generator = Generator.bindings.name then toggles.bindings
  else if generator = Generator.provisions.name then toggles.provisions
  else if generator = Generator.autoWire.name then toggles.autoWire
  else true

/-- What can be set for a run. -/
structure Settings where
  factoriesOnly : Bool := false
  schema : Schema := {}
  suffixes : Suffixes := {}
  scopePolicy : ScopePolicy := .fanOut
  maxTasks : Nat := 8
  extension : String := "kt"
  toggles : Toggles := {}
  deriving DecidableEq

/-- The context that generators get. -/
def Settings.toContext (settings : Settings) (hierarchy : Hierarchy) : Context where
  schema := settings.schema
  suffixes := settings.suffixes
  scopePolicy := settings.scopePolicy
  factoriesOnly := settings.factoriesOnly
  hierarchy := hierarchy

end Wiring
