import Wiring.Proofs.FilesApart
import Wiring.Proofs.GuessedTexts
import Wiring.Proofs.SettingPaths
import Wiring.Settings.Load

/-!
# Texts from variables

A setting that is a text can be set by a variable. What is set is the text of the variable only if
it comes back unchanged from the guess at its type.

* `TextSetting`: the settings that are texts, by the keys that lead to them;
* `suffixes?_eq_some`, `schema?_eq_some`, `settings?_eq_some`: the fields that structures are read
  from;
* `TextSetting.text?_of_settings?`: reading a text;
* `TextSetting.isPlain_of_validate`: what is accepted for a text;
* `SettingsSource.exists_sources_of_load`: what loaded settings come from;
* **`SettingsSource.get_eq_iff_of_load`**: which texts of variables are taken as they are.
-/

namespace Wiring

/-! ## Settings that are texts -/

/-- A setting that is a text. -/
inductive TextSetting where
  | bindingsSuffix
  | provisionsSuffix
  | autoWireSuffix
  | moduleSuffix
  | componentSuffix
  | providesBinding
  | contribution
  | autoWire
  | scopeSentinel
  | extension
  deriving DecidableEq

namespace TextSetting

/-- The keys that lead to a setting. -/
def keys : TextSetting → List String
  | bindingsSuffix => ["names", "and_binds_suffix"]
  | provisionsSuffix => ["names", "provisions_suffix"]
  | autoWireSuffix => ["names", "auto_wire_suffix"]
  | moduleSuffix => ["names", "module_suffix"]
  | componentSuffix => ["names", "component_suffix"]
  | providesBinding => ["schema", "provides_binding"]
  | contribution => ["schema", "contribution"]
  | autoWire => ["schema", "auto_wire"]
  | scopeSentinel => ["schema", "scope_sentinel"]
  | extension => ["file_extension"]

/-- The path of a setting. -/
def path (setting : TextSetting) : String := ".".intercalate setting.keys

/-- The text that is set. -/
def get (settings : Settings) : TextSetting → String
  | bindingsSuffix => settings.suffixes.bindings
  | provisionsSuffix => settings.suffixes.provisions
  | autoWireSuffix => settings.suffixes.autoWire
  | moduleSuffix => settings.suffixes.module
  | componentSuffix => settings.suffixes.component
  | providesBinding => settings.schema.providesBinding.text
  | contribution => settings.schema.contribution.text
  | autoWire => settings.schema.autoWire.text
  | scopeSentinel => settings.schema.scopeSentinel.text
  | extension => settings.extension

theorem keys_ne_nil (setting : TextSetting) : setting.keys ≠ [] := by
  cases setting <;> exact List.cons_ne_nil _ _

theorem isSmall_of_mem_keys (setting : TextSetting) :
    ∀ key ∈ setting.keys, key.toList.all Text.isSmall := by
  cases setting <;> decide

theorem lowerCase_of_mem_keys (setting : TextSetting) :
    ∀ key ∈ setting.keys, Text.lowerCase key = key :=
  fun key hkey => Text.lowerCase_eq_self (setting.isSmall_of_mem_keys key hkey)

theorem stepsOf_path (setting : TextSetting) :
    stepsOf (Text.lowerCase setting.path) = setting.keys.map .key := by
  have hsmall : setting.path.toList.all Text.isSmall := by cases setting <;> decide
  rw [Text.lowerCase_eq_self hsmall]
  cases setting <;> decide

end TextSetting

/-! ## Reading -/

section

variable {entries : List (String × Setting)}

theorem field?_of_lookup {α : Type} {name : String} {value : Setting} {default : α}
    {read : Setting → Option α} (h : entries.lookup name = some value) :
    Form.field? entries name default read = read value := by
  rw [Form.field?, h]

theorem suffixes?_eq_some {suffixes : Suffixes}
    (h : layerForm.suffixes? (.table entries) = some suffixes) :
    let default : Suffixes := {}
    Form.field? entries "and_binds_suffix" default.bindings Setting.text? =
        some suffixes.bindings ∧
      Form.field? entries "provisions_suffix" default.provisions Setting.text? =
        some suffixes.provisions ∧
      Form.field? entries "auto_wire_suffix" default.autoWire Setting.text? =
        some suffixes.autoWire ∧
      Form.field? entries "module_suffix" default.module Setting.text? = some suffixes.module ∧
      Form.field? entries "component_suffix" default.component Setting.text? =
        some suffixes.component := by
  simp only [Form.suffixes?, layerForm, Setting.fields?, Option.bind_eq_bind, Option.bind_some,
    Option.bind_eq_some_iff, Option.pure_def, Option.some_inj] at h
  obtain ⟨_, hbindings, _, hprovisions, _, hautoWire, _, hmodule, _, hcomponent, rfl⟩ := h
  exact ⟨hbindings, hprovisions, hautoWire, hmodule, hcomponent⟩

theorem schema?_eq_some {schema : Schema}
    (h : layerForm.schema? (.table entries) = some schema) :
    let default : Schema := {}
    Form.field? entries "provides_binding" default.providesBinding layerForm.name? =
        some schema.providesBinding ∧
      Form.field? entries "contribution" default.contribution layerForm.name? =
        some schema.contribution ∧
      Form.field? entries "auto_wire" default.autoWire layerForm.name? = some schema.autoWire ∧
      Form.field? entries "scope_sentinel" default.scopeSentinel layerForm.name? =
        some schema.scopeSentinel := by
  simp only [Form.schema?, Option.bind_eq_bind, Option.bind_eq_some_iff, Option.pure_def,
    Option.some_inj] at h
  obtain ⟨_, hfields, _, hprovides, _, hcontribution, _, hautoWire, _, hsentinel, _, -, rfl⟩ := h
  cases hfields
  exact ⟨hprovides, hcontribution, hautoWire, hsentinel⟩

theorem settings?_eq_some {settings : Settings}
    (h : layerForm.settings? (.table entries) = some settings) :
    let default : Settings := {}
    Form.field? entries "schema" default.schema layerForm.schema? = some settings.schema ∧
      Form.field? entries "names" default.suffixes layerForm.suffixes? = some settings.suffixes ∧
      Form.field? entries "file_extension" default.extension Setting.text? =
        some settings.extension := by
  simp only [Form.settings?, Option.bind_eq_bind, Option.bind_eq_some_iff, Option.pure_def,
    Option.some_inj] at h
  obtain ⟨_, hfields, _, -, _, hschema, _, hnames, _, -, _, -, _, hextension, _, -, rfl⟩ := h
  cases hfields
  exact ⟨hschema, hnames, hextension⟩

theorem text?_of_name? {value : Setting} {name : QualifiedName}
    (h : layerForm.name? value = some name) : value.text? = some name.text := by
  obtain ⟨text, htext, rfl⟩ := Option.map_eq_some_iff.1 h
  exact htext

end

namespace TextSetting

variable {merged value : Setting} {settings : Settings}

theorem exists_of_at?_names {field : String} (h : layerForm.settings? merged = some settings)
    (hat : merged.at? ["names", field] = some value) :
    ∃ inner, inner.lookup field = some value ∧
      layerForm.suffixes? (.table inner) = some settings.suffixes := by
  obtain ⟨entries, names, rfl, hnames, hat⟩ := Setting.exists_entry_of_at? hat
  obtain ⟨inner, entry, rfl, hentry, hvalue⟩ := Setting.exists_entry_of_at? hat
  cases hvalue
  exact ⟨inner, hentry, (field?_of_lookup hnames).symm.trans (settings?_eq_some h).2.1⟩

theorem exists_of_at?_schema {field : String} (h : layerForm.settings? merged = some settings)
    (hat : merged.at? ["schema", field] = some value) :
    ∃ inner, inner.lookup field = some value ∧
      layerForm.schema? (.table inner) = some settings.schema := by
  obtain ⟨entries, schema, rfl, hschema, hat⟩ := Setting.exists_entry_of_at? hat
  obtain ⟨inner, entry, rfl, hentry, hvalue⟩ := Setting.exists_entry_of_at? hat
  cases hvalue
  exact ⟨inner, hentry, (field?_of_lookup hschema).symm.trans (settings?_eq_some h).1⟩

/-- A setting that is a text is read from the value that its keys lead to. -/
theorem text?_of_settings? {setting : TextSetting} (h : layerForm.settings? merged = some settings)
    (hat : merged.at? setting.keys = some value) : value.text? = some (setting.get settings) := by
  cases setting with
  | bindingsSuffix =>
    obtain ⟨inner, hvalue, hsuffixes⟩ := exists_of_at?_names h hat
    exact (field?_of_lookup hvalue).symm.trans (suffixes?_eq_some hsuffixes).1
  | provisionsSuffix =>
    obtain ⟨inner, hvalue, hsuffixes⟩ := exists_of_at?_names h hat
    exact (field?_of_lookup hvalue).symm.trans (suffixes?_eq_some hsuffixes).2.1
  | autoWireSuffix =>
    obtain ⟨inner, hvalue, hsuffixes⟩ := exists_of_at?_names h hat
    exact (field?_of_lookup hvalue).symm.trans (suffixes?_eq_some hsuffixes).2.2.1
  | moduleSuffix =>
    obtain ⟨inner, hvalue, hsuffixes⟩ := exists_of_at?_names h hat
    exact (field?_of_lookup hvalue).symm.trans (suffixes?_eq_some hsuffixes).2.2.2.1
  | componentSuffix =>
    obtain ⟨inner, hvalue, hsuffixes⟩ := exists_of_at?_names h hat
    exact (field?_of_lookup hvalue).symm.trans (suffixes?_eq_some hsuffixes).2.2.2.2
  | providesBinding =>
    obtain ⟨inner, hvalue, hschema⟩ := exists_of_at?_schema h hat
    exact text?_of_name? ((field?_of_lookup hvalue).symm.trans (schema?_eq_some hschema).1)
  | contribution =>
    obtain ⟨inner, hvalue, hschema⟩ := exists_of_at?_schema h hat
    exact text?_of_name? ((field?_of_lookup hvalue).symm.trans (schema?_eq_some hschema).2.1)
  | autoWire =>
    obtain ⟨inner, hvalue, hschema⟩ := exists_of_at?_schema h hat
    exact text?_of_name? ((field?_of_lookup hvalue).symm.trans (schema?_eq_some hschema).2.2.1)
  | scopeSentinel =>
    obtain ⟨inner, hvalue, hschema⟩ := exists_of_at?_schema h hat
    exact text?_of_name? ((field?_of_lookup hvalue).symm.trans (schema?_eq_some hschema).2.2.2)
  | extension =>
    obtain ⟨entries, entry, rfl, hentry, hvalue⟩ := Setting.exists_entry_of_at? hat
    cases hvalue
    exact (field?_of_lookup hentry).symm.trans (settings?_eq_some h).2.2

end TextSetting

/-! ## Accepted texts -/

theorem Text.exists_head?_of_isIdentifier {s : String} (h : Text.isIdentifier s) :
    ∃ c, s.toList.head? = some c ∧ Text.startsIdentifier c := by
  rw [isIdentifier] at h
  split at h
  · cases h
  · next c cs hs =>
    rw [Bool.and_eq_true] at h
    exact ⟨c, by rw [hs, List.head?_cons], h.1⟩

/-- A qualified name begins as its first segment does. -/
theorem QualifiedName.exists_head?_of_isValid {n : QualifiedName} (h : n.isValid) :
    ∃ c, n.text.toList.head? = some c ∧ Text.startsIdentifier c := by
  obtain ⟨first, rest, hsegments⟩ := List.exists_cons_of_ne_nil n.segments_ne_nil
  obtain ⟨c, hhead, hc⟩ := Text.exists_head?_of_isIdentifier
    (isIdentifier_of_mem h (hsegments ▸ List.mem_cons_self))
  refine ⟨c, ?_, hc⟩
  have hlist : first.toList ≠ [] := by
    rintro hnil
    rw [hnil] at hhead
    cases hhead
  rw [← n.intercalate_segments, hsegments]
  cases rest with
  | nil => exact hhead
  | cons =>
    rw [String.intercalate_cons_cons, String.toList_append, String.toList_append,
      List.append_assoc, List.head?_append_of_ne_nil _ hlist, hhead]

theorem isValid_of_nameProblem {field : String} {name : QualifiedName}
    (h : nameProblem field name = []) : name.isValid := by
  rw [nameProblem] at h
  split at h
  · assumption
  · cases h

theorem Text.startsIdentifier_of_isDigit {c : Char} (h : c.isDigit) :
    Text.startsIdentifier c = false := by
  have hdigits : ∀ n < 58, 48 ≤ n → startsIdentifier (Char.ofNat n) = false := by decide
  simp only [Char.isDigit, Bool.and_eq_true, decide_eq_true_eq] at h
  have hc := hdigits c.toNat (Nat.lt_succ_of_le h.2) h.1
  rwa [Char.ofNat_toNat] at hc

namespace TextSetting

variable {settings : Settings}

/-- A text that is accepted for a setting begins like an identifier, or it is an extension. -/
theorem begins_or_isExtension (setting : TextSetting) (h : settings.validate = .ok ()) :
    (∃ c, (setting.get settings).toList.head? = some c ∧ Text.startsIdentifier c) ∨
      isExtension (setting.get settings) := by
  have hproblems := Settings.problems_eq_nil h
  simp only [Settings.problems, Suffixes.problems, Schema.problems, List.append_eq_nil_iff]
    at hproblems
  obtain ⟨⟨⟨⟨⟨⟨⟨hbindings, hprovisions⟩, hautoWire⟩, hmodule⟩, hcomponent⟩,
    ⟨⟨⟨⟨hprovides, hcontribution⟩, hmark⟩, hsentinel⟩, -⟩, -⟩, -⟩, -⟩ := hproblems
  have hsuffix {field suffix : String} (hnone : suffixProblem field suffix = []) :=
    Text.exists_head?_of_isIdentifier (Settings.isIdentifier_of_suffixProblem hnone)
  have hname {field : String} {name : QualifiedName} (hnone : nameProblem field name = []) :=
    QualifiedName.exists_head?_of_isValid (isValid_of_nameProblem hnone)
  cases setting with
  | bindingsSuffix => exact .inl (hsuffix hbindings)
  | provisionsSuffix => exact .inl (hsuffix hprovisions)
  | autoWireSuffix => exact .inl (hsuffix hautoWire)
  | moduleSuffix => exact .inl (hsuffix hmodule)
  | componentSuffix => exact .inl (hsuffix hcomponent)
  | providesBinding => exact .inl (hname hprovides)
  | contribution => exact .inl (hname hcontribution)
  | autoWire => exact .inl (hname hmark)
  | scopeSentinel => exact .inl (hname hsentinel)
  | extension => exact .inr (Settings.isExtension_of_validate h)

/-- A text that is accepted for a setting is no negative number, and no number with a point. -/
theorem isPlain_of_validate (setting : TextSetting) (h : settings.validate = .ok ()) :
    (setting.get settings).toList.head? ≠ some '-' ∧
      ∀ c, (setting.get settings).toList.head? = some c → c.isDigit →
        '.' ∉ (setting.get settings).toList := by
  rcases setting.begins_or_isExtension h with ⟨first, hfirst, hstarts⟩ | hextension
  · rw [hfirst]
    constructor
    · intro hminus
      cases hminus
      exact absurd hstarts (by decide)
    · intro c hc hdigit
      cases hc
      rw [Text.startsIdentifier_of_isDigit hdigit] at hstarts
      cases hstarts
  · rw [isExtension, Bool.and_eq_true, List.all_eq_true] at hextension
    constructor
    · intro hminus
      exact absurd (hextension.2 '-' (List.mem_of_mem_head? hminus)) (by decide)
    · intro _ _ _ hpoint
      exact absurd (hextension.2 '.' hpoint) (by decide)

end TextSetting

/-! ## Loading -/

theorem Setting.overlay_of_text? {value : Setting} {text : String} (h : value.text? = some text)
    (old : Setting) : old.overlay value = value := by
  cases value with
  | nothing | list | table => cases h
  | bool | int | float | text => rfl

theorem environmentSource_append_cons {start name text path : String}
    (before later : List (String × String)) (h : keyOfVariable? start name = some path) :
    environmentSource start (before ++ (name, text) :: later) =
      environmentSource start before ++
        (path, Setting.ofText text) :: environmentSource start later := by
  rw [environmentSource, List.filterMap_append, List.filterMap_cons, h]
  rfl

theorem Settings.exists_of_ofSources {sources : List (List (String × Setting))}
    {last : List (String × Setting)} {settings : Settings}
    (h : Settings.ofSources (sources ++ [last]) = .ok settings) :
    ∃ below merged : Setting, below.setAll? last = some merged ∧
      layerForm.settings? merged = some settings := by
  rw [Settings.ofSources] at h
  split at h
  · cases h
  · next merged hmerged =>
    split at h
    · cases h
    · next read hread =>
      cases h
      rw [List.foldlM_append] at hmerged
      obtain ⟨below, -, hlast⟩ := Option.bind_eq_some_iff.1 hmerged
      rw [List.foldlM_cons] at hlast
      obtain ⟨top, htop, hrest⟩ := Option.bind_eq_some_iff.1 hlast
      cases hrest
      exact ⟨below, merged, htop, hread⟩

namespace SettingsSource

variable {σ : Type} {source : SettingsSource} {files : FileSystem (StateM σ)} {state : σ}
  {vars : List (String × String)} {settings : Settings}

theorem exists_sources_of_read (henvironment : source.environment)
    (h : ((source.read files vars).run state).1 = .ok settings) :
    ∃ sources : List (List (String × Setting)),
      Settings.ofSources (sources ++ [environmentSource source.start vars]) = .ok settings := by
  rw [read, if_pos henvironment] at h
  cases hfile : source.file with
  | none =>
    rw [hfile] at h
    exact ⟨[], h⟩
  | some path =>
    rw [hfile, StateT.run_bind] at h
    cases hanswer : (readSource files path).run state with
    | mk answer next =>
      rw [hanswer] at h
      cases answer with
      | error => cases h
      | ok entries => exact ⟨[entries], h⟩

/-- Loaded settings are accepted ones, and the variables are laid over all else they come from. -/
theorem exists_sources_of_load (henvironment : source.environment)
    (h : ((source.load files vars).run state).1 = .ok settings) :
    settings.validate = .ok () ∧ ∃ sources : List (List (String × Setting)),
      Settings.ofSources (sources ++ [environmentSource source.start vars]) = .ok settings := by
  rw [load, StateT.run_bind] at h
  cases hread : (source.read files vars).run state with
  | mk result next =>
    rw [hread] at h
    cases result with
    | error => cases h
    | ok read =>
      change read.validate.map (fun _ => read) = .ok settings at h
      cases hvalid : read.validate with
      | error => rw [hvalid] at h; cases h
      | ok =>
        rw [hvalid] at h
        cases h
        exact ⟨hvalid, exists_sources_of_read henvironment (congrArg Prod.fst hread)⟩

/-- **Which texts of variables are taken as they are.** A variable of a setting that is a text sets
the text of what its own text is taken for. This is the text itself exactly if it comes back from
the guess at its type. Whatever else the environment and a file set, and whatever the file system
answers, only a variable that is read later and leads to the setting, above it or below it can
change this. -/
theorem get_eq_iff_of_load (source : SettingsSource) (henvironment : source.environment)
    (files : FileSystem (StateM σ)) (state : σ) (setting : TextSetting)
    (before later : List (String × String)) (name text : String)
    (hname : keyOfVariable? source.start name = some setting.path)
    (hlater : ∀ entry ∈ environmentSource source.start later,
      Setting.leavesAlone setting.keys (stepsOf (Text.lowerCase entry.1)))
    (settings : Settings)
    (hload : ((source.load files (before ++ (name, text) :: later)).run state).1 = .ok settings) :
    (Setting.ofText text).text? = some (setting.get settings) ∧
      (setting.get settings = text ↔ Setting.ComesBack text) := by
  obtain ⟨hvalid, sources, hsources⟩ := exists_sources_of_load henvironment hload
  obtain ⟨below, merged, hmerged, hread⟩ := Settings.exists_of_ofSources hsources
  rw [environmentSource_append_cons before later hname] at hmerged
  obtain ⟨given, hgiven⟩ := Setting.exists_text?_ofText text
  have hat : merged.at? setting.keys = some (Setting.ofText text) :=
    Setting.at?_setAll? (Setting.overlay_of_text? hgiven) setting.keys_ne_nil
      setting.lowerCase_of_mem_keys setting.stepsOf_path hlater hmerged
  have htext := TextSetting.text?_of_settings? hread hat
  refine ⟨htext, fun hsame => ?_, fun hback => ?_⟩
  · obtain ⟨hminus, hpoint⟩ := setting.isPlain_of_validate hvalid
    rw [hsame] at htext hminus hpoint
    exact (Setting.text?_ofText_eq_self_iff hminus hpoint).1 htext
  · exact Option.some.inj (htext.symm.trans hback.text?_ofText)

/-- Variables of a suffix and of the number of tasks. -/
def injectionVariables : List (String × String) :=
  [("CODEGEN_NAMES__AUTO_WIRE_SUFFIX", "Injection"), ("CODEGEN_MAX_CONCURRENT_TASKS", "3")]

/-- The suffix is taken as it is, since its text comes back from the guess. -/
theorem get_eq_iff_of_load_injection :
    keyOfVariable? "CODEGEN" "CODEGEN_NAMES__AUTO_WIRE_SUFFIX" =
        some TextSetting.autoWireSuffix.path ∧
      (∀ entry ∈ environmentSource "CODEGEN" [("CODEGEN_MAX_CONCURRENT_TASKS", "3")],
        Setting.leavesAlone TextSetting.autoWireSuffix.keys
          (stepsOf (Text.lowerCase entry.1))) ∧
      ((({} : SettingsSource).load (FileTree.fileSystem "/") injectionVariables).run ⟨[], []⟩).1 =
        .ok { suffixes := { autoWire := "Injection" }, maxTasks := 3 } ∧
      Setting.ComesBack "Injection" := by
  have hname : keyOfVariable? "CODEGEN" "CODEGEN_NAMES__AUTO_WIRE_SUFFIX" =
      some TextSetting.autoWireSuffix.path := by decide +kernel
  have hlater : ∀ entry ∈ environmentSource "CODEGEN" [("CODEGEN_MAX_CONCURRENT_TASKS", "3")],
      Setting.leavesAlone TextSetting.autoWireSuffix.keys
        (stepsOf (Text.lowerCase entry.1)) := by decide +kernel
  have hload :
      ((({} : SettingsSource).load (FileTree.fileSystem "/") injectionVariables).run ⟨[], []⟩).1 =
        .ok { suffixes := { autoWire := "Injection" }, maxTasks := 3 } := by decide +kernel
  exact ⟨hname, hlater, hload,
    (get_eq_iff_of_load {} rfl (FileTree.fileSystem "/") ⟨[], []⟩ .autoWireSuffix [] _ _ _ hname
      hlater _ hload).2.1 rfl⟩

/-- A suffix that reads like a truth value loses its capital letter. -/
theorem load_capitalized_word :
    keyOfVariable? "CODEGEN" "CODEGEN_NAMES__MODULE_SUFFIX" =
        some TextSetting.moduleSuffix.path ∧
      ((({} : SettingsSource).load (FileTree.fileSystem "/")
          [("CODEGEN_NAMES__MODULE_SUFFIX", "True")]).run ⟨[], []⟩).1 =
        .ok { suffixes := { module := "true" } } ∧
      TextSetting.moduleSuffix.get { suffixes := { module := "true" } } ≠ "True" := by
  decide +kernel

end SettingsSource

end Wiring
