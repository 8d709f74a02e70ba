import Wiring.Log
import Wiring.Text.Segments

/-!
# Command line

The options of the program. Each may be given once; options that take a value take it from the same
argument, after `=` or directly after a single letter, or from the next argument.

* `ValueOption`, `Switch`: the options, with their long names and letters;
* `Choices`, `Options`: what is given, and what it means;
* `Command`, `parseArguments`: what a command line asks for.
-/

namespace Wiring

/-- The options that take a value. -/
inductive ValueOption where
  | corpus
  | output
  | config
  | logLevel
  deriving DecidableEq

/-- The options without a value. -/
inductive Switch where
  | jsonLogs
  | dryRun
  | help
  deriving DecidableEq

/-- An option. -/
inductive CommandOption where
  | withValue (option : ValueOption)
  | switch (switch : Switch)
  deriving DecidableEq

namespace CommandOption

/-- The long names of options. -/
def longNames : List (String × CommandOption) :=
  [("corpus", .withValue .corpus), ("output", .withValue .output), ("config", .withValue .config),
    ("log-level", .withValue .logLevel), ("json-logs", .switch .jsonLogs),
    ("dry-run", .switch .dryRun), ("help", .switch .help)]

/-- The letters of options. -/
def letters : List (Char × CommandOption) :=
  [('i', .withValue .corpus), ('o', .withValue .output), ('c', .withValue .config),
    ('h', .switch .help)]

end CommandOption

/-- What has been given so far. -/
structure Choices where
  values : List (ValueOption × String) := []
  switches : List Switch := []

/-- What the program is to do. -/
structure Options where
  corpus : String
  output : String
  config : Option String
  logLevel : String
  jsonLogs : Bool
  dryRun : Bool
  deriving DecidableEq

/-- What a command line asks for. -/
inductive Command where
  | run (options : Options)
  | help
  | misuse
  deriving DecidableEq

namespace Choices

/-- Add a value, unless the option was given before or the value is an empty path. -/
def addValue? (choices : Choices) (option : ValueOption) (value : String) : Option Choices :=
  if (choices.values.lookup option).isSome || (value.isEmpty && option ≠ .logLevel) then none
  else some { choices with values := choices.values ++ [(option, value)] }

/-- Add a switch, unless it was given before. -/
def addSwitch? (choices : Choices) (switch : Switch) : Option Choices :=
  if choices.switches.contains switch then none
  else some { choices with switches := choices.switches ++ [switch] }

/-- What is asked for in the end. There has to be a corpus. -/
def command (choices : Choices) : Command :=
  match choices.values.lookup .corpus with
  | none => .misuse
  | some corpus =>
    .run {
      corpus := corpus
      output := (choices.values.lookup .output).getD "build/generated/codegen"
      config := choices.values.lookup .config
      logLevel := (choices.values.lookup .logLevel).getD "info"
      jsonLogs := choices.switches.contains .jsonLogs
      dryRun := choices.switches.contains .dryRun }

end Choices

/-- An option in an argument, with the value in the same argument if there is one. -/
structure Occurrence where
  option : CommandOption
  value : Option String

/-- The option in an argument after two hyphens. -/
def longOption? (cs : List Char) : Option Occurrence := do
  let option ← CommandOption.longNames.lookup (String.ofList (cs.takeWhile (· ≠ '=')))
  return ⟨option, (cs.dropWhile (· ≠ '=')).tail?.map String.ofList⟩

/-- The option in an argument after one hyphen. What follows the letter is the value of an option
that takes one. -/
def letterOption? : List Char → Option Occurrence
  | [] => none
  | c :: cs => do
    let value := match cs with
      | '=' :: rest => some rest
      | [] => none
      | rest => some rest
    return ⟨← CommandOption.letters.lookup c, value.map String.ofList⟩

/-- The option in an argument. A single hyphen is none. -/
def option? : List Char → Option Occurrence
  | '-' :: '-' :: cs => longOption? cs
  | '-' :: cs => letterOption? cs
  | _ => none

/-- Whether an argument can only be an option. -/
def startsOption (argument : String) : Bool :=
  match argument.toList with
  | '-' :: _ :: _ => true
  | _ => false

/-- What arguments ask for, given the choices so far. Help wins over all that follows it. After two
hyphens alone no further argument may come. -/
def parseFrom (choices : Choices) : List String → Command
  | [] => choices.command
  | "--" :: rest => if rest.isEmpty then choices.command else .misuse
  | argument :: rest =>
    match option? argument.toList with
    | none => .misuse
    | some ⟨.switch .help, value⟩ =>
      if value.isSome && argument.startsWith "--" then .misuse else .help
    | some ⟨.switch switch, value⟩ =>
      match value, choices.addSwitch? switch with
      | none, some choices => parseFrom choices rest
      | _, _ => .misuse
    | some ⟨.withValue option, some value⟩ =>
      match choices.addValue? option value with
      | some choices => parseFrom choices rest
      | none => .misuse
    | some ⟨.withValue option, none⟩ =>
      match rest with
      | [] => .misuse
      | value :: rest =>
        if startsOption value then .misuse
        else
          match choices.addValue? option value with
          | some choices => parseFrom choices rest
          | none => .misuse

/-- What a command line asks for. -/
def parseArguments (arguments : List String) : Command := parseFrom {} arguments

end Wiring
