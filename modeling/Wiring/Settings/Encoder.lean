import Wiring.Corpus.Encoder
import Wiring.Settings.Decoder

/-!
# Writing settings

Settings as JSON values, with every field.

* `Schema.toJson`, `Suffixes.toJson`, `Toggles.toJson`, `Settings.toJson`.
-/

namespace Wiring

/-- A schema. -/
def Schema.toJson (schema : Schema) : Json :=
  .ofFields [("provides_binding", schema.providesBinding.toJson),
    ("contribution", schema.contribution.toJson), ("auto_wire", schema.autoWire.toJson),
    ("scope_sentinel", schema.scopeSentinel.toJson),
    ("qualifier_meta_annotations", namesToJson schema.qualifierMetaAnnotations)]

/-- Suffixes. -/
def Suffixes.toJson (suffixes : Suffixes) : Json :=
  .ofFields [("and_binds_suffix", .text suffixes.bindings),
    ("provisions_suffix", .text suffixes.provisions), ("auto_wire_suffix", .text suffixes.autoWire),
    ("module_suffix", .text suffixes.module), ("component_suffix", .text suffixes.component)]

/-- The name of a policy. -/
def ScopePolicy.name : ScopePolicy → String
  | .fanOut => "fan_out"
  | .requireSingle => "require_single"

theorem ScopePolicy.lookup_name (policy : ScopePolicy) :
    ScopePolicy.names.lookup policy.name = some policy := by
  cases policy <;> rfl

/-- Toggles. -/
def Toggles.toJson (toggles : Toggles) : Json :=
  .ofFields [("bindings", .bool toggles.bindings), ("provisions", .bool toggles.provisions),
    ("auto_wire", .bool toggles.autoWire)]

/-- Settings. -/
def Settings.toJson (settings : Settings) : Json :=
  .ofFields [("generate_factories_only", .bool settings.factoriesOnly),
    ("schema", settings.schema.toJson), ("names", settings.suffixes.toJson),
    ("scope_fan_out", .text settings.scopePolicy.name),
    ("max_concurrent_tasks", .int settings.maxTasks), ("file_extension", .text settings.extension),
    ("generators", settings.toggles.toJson)]

end Wiring
