import Wiring.FileSystem
import Wiring.Json.Reader
import Wiring.Settings.Conversion
import Wiring.Settings.Environment
import Wiring.Settings.Layer
import Wiring.Settings.Validation
import Wiring.Toml.Reader

/-!
# Loading settings

Settings come from a file, in one of two formats, and from the environment, which is laid over the
file. What neither of them sets has its default.

* `jsonSource?`, `SettingsFormat`: the settings in the text of a file;
* `readSource`: the settings in the file that a path leads to or stands for;
* `Settings.ofSources`: settings from the sources laid over each other;
* `SettingsSource`, `SettingsSource.read`, `SettingsSource.load`: where settings come from, reading
  them, and reading valid ones.
-/

namespace Wiring

/-! ## Files -/

/-- The entries of a table in which later entries of a key replace earlier ones. -/
def lastEntries (entries : List (String × Setting)) : List (String × Setting) :=
  entries.foldl (fun kept entry => Setting.updateEntry entry.1 (fun _ => entry.2) kept) []

mutual

/-- The setting that a JSON value stands for. Whole numbers that do not fit into a word of 64 bits
with a sign are doubles. -/
def Json.toSetting : Json → Setting
  | .null => .nothing
  | .bool value => .bool value
  | .number n =>
    match n.toInt?.filter inSignedWord with
    | some n => .int n
    | none => .float n.toBinary64
  | .string text => .text (text.getD "")
  | .array items => .list (Json.itemsToSettings items)
  | .object members => .table (lastEntries (Json.membersToSettings members))
  termination_by structural value => value

/-- The settings that the items of an array stand for. -/
def Json.itemsToSettings : List Json → List Setting
  | [] => []
  | item :: rest => item.toSetting :: Json.itemsToSettings rest
  termination_by structural items => items

/-- The settings that the members of an object stand for, by their keys. -/
def Json.membersToSettings : List (Quoted × Json) → List (String × Setting)
  | [] => []
  | (key, value) :: rest => (key.getD "", value.toSetting) :: Json.membersToSettings rest
  termination_by structural members => members

end

/-- The number of arrays and objects that may be nested in a JSON file. -/
def fileNestingLimit : Nat := 127

/-- The settings in a JSON file, which has to hold an object. -/
def jsonSource? (text : String) : Option (List (String × Setting)) :=
  match (Json.read? text).filter (·.kept fileNestingLimit) with
  | some (.object members) => some (lastEntries (Json.membersToSettings members))
  | _ => none

/-- A format of settings files: the extension of their names, and the settings in their texts. -/
structure SettingsFormat where
  extension : String
  read? : String → Option (List (String × Setting))

namespace SettingsFormat

/-- The formats. -/
def all : List SettingsFormat := [⟨"toml", Toml.read?⟩, ⟨"json", jsonSource?⟩]

/-- The format that the name of a file tells. -/
def ofPath? (path : String) : Option SettingsFormat := do
  let extension ← Path.extension? path
  all.find? (·.extension = extension)

end SettingsFormat

/-! ## Loading -/

/-- The settings that sources give, each laid over those before it. -/
def Settings.ofSources (sources : List (List (String × Setting))) :
    Except SettingsError Settings :=
  match sources.foldlM Setting.setAll? (.table []) with
  | none => .error .noSuchPlace
  | some merged =>
    match layerForm.settings? merged with
    | none => .error .malformed
    | some settings => .ok settings

/-- Where settings come from: a file, if one is given, and the variables whose names begin with a
word, if there are such variables at all. -/
structure SettingsSource where
  file : Option String := none
  start : String := "CODEGEN"
  environment : Bool := true

section

variable {m : Type → Type} [Monad m]

/-- The settings in a file of a format. -/
def SettingsFormat.readFile (format : SettingsFormat) (files : FileSystem m) (path : String) :
    m (Except SettingsError (List (String × Setting))) := do
  match (← files.read path).bind format.read? with
  | some source => return .ok source
  | none => return .error .malformed

/-- The settings in a file beside a folder, with the name of the folder and the extension of the
first of the formats that has such a file. -/
def readBeside (files : FileSystem m) (folder : String) :
    List SettingsFormat → m (Except SettingsError (List (String × Setting)))
  | [] => return .error (.emptyFolder folder)
  | format :: rest => do
    match Path.withExtension? folder format.extension with
    | none => return .error (.emptyFolder folder)
    | some path =>
      match ← files.kind path with
      | .file => format.readFile files path
      | _ => readBeside files folder rest

/-- The settings at a path: those in the file it leads to, or in a file beside the folder. -/
def readSource (files : FileSystem m) (path : String) :
    m (Except SettingsError (List (String × Setting))) := do
  match ← files.kind path with
  | .missing => return .error (.fileNotFound path)
  | .folder => readBeside files path SettingsFormat.all
  | .file =>
    match SettingsFormat.ofPath? path with
    | none => return .error (.unknownFormat path)
    | some format => format.readFile files path

/-- Read settings, given the variables of the environment. They need not be valid. -/
def SettingsSource.read (source : SettingsSource) (files : FileSystem m)
    (vars : List (String × String)) : m (Except SettingsError Settings) := do
  let environment := if source.environment then environmentSource source.start vars else []
  match source.file with
  | none => return Settings.ofSources [environment]
  | some path =>
    match ← readSource files path with
    | .error error => return .error error
    | .ok entries => return Settings.ofSources [entries, environment]

/-- Load valid settings, given the variables of the environment. -/
def SettingsSource.load (source : SettingsSource) (files : FileSystem m)
    (vars : List (String × String)) : m (Except SettingsError Settings) := do
  match ← source.read files vars with
  | .error error => return .error error
  | .ok settings => return settings.validate.map fun _ => settings

end

end Wiring
