import Wiring.Settings.Basic

/-!
# Forms of settings

Settings are read from values of more than one form. What differs between the forms is how a
structure gives its fields and how plain values are recognised; which fields there are, and what a
missing one means, is the same for all.

* `Form`: the ways in which values of a type are taken apart;
* `Form.settings?`, with `Form.schema?`, `Form.suffixes?`, `Form.toggles?`: settings read from a
  value, every field of which may be missing.
-/

namespace Wiring

/-- A form of values: the fields of a structure by name, the items of a list, texts, truth values,
whole numbers in a word of 64 bits, and one of several names. -/
structure Form (V : Type) where
  fields? : List String → V → Option (List (String × V))
  items? : V → Option (List V)
  text? : V → Option String
  bool? : V → Option Bool
  count? : V → Option Nat
  choice? : List String → V → Option String

/-- The names of the fields of a schema. -/
def Schema.fields : List String :=
  ["provides_binding", "contribution", "auto_wire", "scope_sentinel", "qualifier_meta_annotations"]

/-- The names of the fields of suffixes. -/
def Suffixes.fields : List String :=
  ["and_binds_suffix", "provisions_suffix", "auto_wire_suffix", "module_suffix", "component_suffix"]

/-- The names of the policies. -/
def ScopePolicy.names : List (String × ScopePolicy) :=
  [("fan_out", .fanOut), ("require_single", .requireSingle)]

/-- The names of the fields of toggles. -/
def Toggles.fields : List String := ["bindings", "provisions", "auto_wire"]

/-- The names of the fields of settings. -/
def Settings.fields : List String :=
  ["generate_factories_only", "schema", "names", "scope_fan_out", "max_concurrent_tasks",
    "file_extension", "generators"]

namespace Form

variable {V α : Type} (form : Form V)

/-- A field, or its default if it is missing. -/
def field? (fields : List (String × V)) (name : String) (default : α) (read : V → Option α) :
    Option α :=
  match fields.lookup name with
  | none => some default
  | some value => read value

/-- A qualified name. -/
def name? (value : V) : Option QualifiedName := (form.text? value).map (⟨·⟩)

/-- A list of qualified names. -/
def names? (value : V) : Option (List QualifiedName) :=
  (form.items? value).bind (·.mapM form.name?)

/-- A schema. -/
def schema? (value : V) : Option Schema := do
  let fields ← form.fields? Schema.fields value
  let default : Schema := {}
  let providesBinding ← field? fields "provides_binding" default.providesBinding form.name?
  let contribution ← field? fields "contribution" default.contribution form.name?
  let autoWire ← field? fields "auto_wire" default.autoWire form.name?
  let scopeSentinel ← field? fields "scope_sentinel" default.scopeSentinel form.name?
  let qualifierMetaAnnotations ← field? fields "qualifier_meta_annotations"
    default.qualifierMetaAnnotations form.names?
  return { providesBinding, contribution, autoWire, scopeSentinel, qualifierMetaAnnotations }

/-- Suffixes. -/
def suffixes? (value : V) : Option Suffixes := do
  let fields ← form.fields? Suffixes.fields value
  let default : Suffixes := {}
  let bindings ← field? fields "and_binds_suffix" default.bindings form.text?
  let provisions ← field? fields "provisions_suffix" default.provisions form.text?
  let autoWire ← field? fields "auto_wire_suffix" default.autoWire form.text?
  let module ← field? fields "module_suffix" default.module form.text?
  let component ← field? fields "component_suffix" default.component form.text?
  return { bindings, provisions, autoWire, module, component }

/-- A policy. -/
def scopePolicy? (value : V) : Option ScopePolicy :=
  (form.choice? (ScopePolicy.names.map (·.1)) value).bind fun name => ScopePolicy.names.lookup name

/-- Toggles. -/
def toggles? (value : V) : Option Toggles := do
  let fields ← form.fields? Toggles.fields value
  let bindings ← field? fields "bindings" true form.bool?
  let provisions ← field? fields "provisions" true form.bool?
  let autoWire ← field? fields "auto_wire" true form.bool?
  return { bindings, provisions, autoWire }

/-- Settings. -/
def settings? (value : V) : Option Settings := do
  let fields ← form.fields? Settings.fields value
  let default : Settings := {}
  let factoriesOnly ← field? fields "generate_factories_only" default.factoriesOnly form.bool?
  let schema ← field? fields "schema" default.schema form.schema?
  let suffixes ← field? fields "names" default.suffixes form.suffixes?
  let scopePolicy ← field? fields "scope_fan_out" default.scopePolicy form.scopePolicy?
  let maxTasks ← field? fields "max_concurrent_tasks" default.maxTasks form.count?
  let extension ← field? fields "file_extension" default.extension form.text?
  let toggles ← field? fields "generators" default.toggles form.toggles?
  return { factoriesOnly, schema, suffixes, scopePolicy, maxTasks, extension, toggles }

end Form

end Wiring
