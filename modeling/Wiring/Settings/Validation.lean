import Wiring.Log
import Wiring.Settings.Basic

/-!
# Valid settings

* `Settings.problems`, `Settings.warnings`: all that is wrong with settings, in a fixed order, and
  what is only strange;
* `SettingsError`, `SettingsError.message`, `SettingsError.events`: why settings cannot be used.
-/

namespace Wiring

/-- Why settings cannot be used. -/
inductive SettingsError where
  | fileNotFound (path : String)
  | emptyFolder (path : String)
  | unknownFormat (path : String)
  | malformed
  | noSuchPlace
  | invalid (problems : List String)
  deriving DecidableEq

namespace SettingsError

/-- Why the sources of settings cannot be read, if this is the error. -/
def readingProblem? : SettingsError → Option String
  | emptyFolder path => some ("configuration file " ++ quoted path ++ " not found")
  | unknownFormat path =>
    some ("configuration file " ++ quoted path ++ " is not of a registered file format")
  | malformed => some "malformed configuration"
  | noSuchPlace => some "index out of range"
  | fileNotFound _ => none
  | invalid _ => none
where
  quoted (path : String) : String := "\"" ++ path ++ "\""

/-- The text of an error. -/
def message : SettingsError → String
  | fileNotFound path => "配置文件不存在: " ++ path
  | invalid problems => "配置验证失败: " ++ "; ".intercalate problems
  | error => "配置解析失败: " ++ error.readingProblem?.getD ""

/-- What is logged when settings cannot be read. A place that no list has ends the work before
anything is logged. -/
def events : SettingsError → List LogEvent
  | noSuchPlace => []
  | error =>
    error.readingProblem?.toList.map fun problem =>
      { level := .error, message := "生成器配置解析失败: " ++ problem }

end SettingsError

/-- A text between the marks that set it off in a message. -/
def inMarks (text : String) : String := "`" ++ text ++ "`"

/-- The problem of a suffix that is no identifier. -/
def suffixProblem (field suffix : String) : List String :=
  if Text.isIdentifier suffix then []
  else [field ++ ": " ++ inMarks suffix ++ " 不是合法的标识符"]

/-- The problem of a name that is not well-formed. -/
def nameProblem (field : String) (name : QualifiedName) : List String :=
  if name.isValid then [] else [field ++ ": " ++ inMarks name.text ++ " 不是合法的全限定名"]

/-- Whether a text is an extension of files: letters and digits, at least one. -/
def isExtension (text : String) : Bool :=
  !text.isEmpty && text.toList.all Char.isAlphanum

namespace Suffixes

/-- The suffixes that are no identifiers. -/
def problems (suffixes : Suffixes) : List String :=
  suffixProblem "names.and_binds_suffix" suffixes.bindings ++
    suffixProblem "names.provisions_suffix" suffixes.provisions ++
    suffixProblem "names.auto_wire_suffix" suffixes.autoWire ++
    suffixProblem "names.module_suffix" suffixes.module ++
    suffixProblem "names.component_suffix" suffixes.component

end Suffixes

namespace Schema

/-- Whether no two markers share an annotation. -/
def hasDistinctMarkers (schema : Schema) : Bool := (MarkerKind.all.map schema.markerName).Nodup

/-- The names that are not well-formed, and markers that share an annotation. -/
def problems (schema : Schema) : List String :=
  nameProblem "schema.provides_binding" schema.providesBinding ++
    nameProblem "schema.contribution" schema.contribution ++
    nameProblem "schema.auto_wire" schema.autoWire ++
    nameProblem "schema.scope_sentinel" schema.scopeSentinel ++
    schema.qualifierMetaAnnotations.flatMap (nameProblem "schema.qualifier_meta_annotations") ++
    (if schema.hasDistinctMarkers then [] else ["schema: 三种标记注解的全限定名必须互不相同"])

end Schema

namespace Settings

/-- All that is wrong with settings. -/
def problems (settings : Settings) : List String :=
  settings.suffixes.problems ++ settings.schema.problems ++
    (if settings.maxTasks = 0 then ["max_concurrent_tasks: 必须大于 0"] else []) ++
    (if isExtension settings.extension then []
     else ["file_extension: " ++ inMarks settings.extension ++ " 不是合法的扩展名"])

/-- What is allowed in settings but hardly meant. -/
def warnings (settings : Settings) : List LogEvent :=
  if settings.schema.qualifierMetaAnnotations.isEmpty then
    [{ level := .warn, message := "未配置限定符元注解，所有限定符都不会被复制到生成声明中" }]
  else []

/-- Require that nothing is wrong with settings. -/
def validate (settings : Settings) : Except SettingsError Unit :=
  if settings.problems.isEmpty then .ok () else .error (.invalid settings.problems)

end Settings

end Wiring
