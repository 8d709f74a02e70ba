import Wiring.Declaration

/-!
# Logs

What a run tells while it works.

* `LogLevel`, `LogLevel.ofName?`, `LogLevel.shows`: how much an event matters, and which events a
  level lets through;
* `LogOptions`, with the presets `standard`, `development` and `server`;
* `LogEvent`: an event.
-/

namespace Wiring

/-- How much an event matters, from most to least. -/
inductive LogLevel where
  | error
  | warn
  | info
  | debug
  | trace
  deriving DecidableEq

namespace LogLevel

/-- All levels. -/
def all : List LogLevel := [error, warn, info, debug, trace]

/-- The name of a level. -/
def name : LogLevel → String
  | error => "ERROR"
  | warn => "WARN"
  | info => "INFO"
  | debug => "DEBUG"
  | trace => "TRACE"

/-- The level of a name in any case. -/
def ofName? (text : String) : Option LogLevel :=
  all.find? fun level => Text.lowerCase level.name = Text.lowerCase text

/-- Whether events of a level are shown up to another one. -/
def shows (limit level : LogLevel) : Bool := all.idxOf level ≤ all.idxOf limit

end LogLevel

/-- What is shown of events. -/
structure LogOptions where
  level : LogLevel := .info
  showTarget : Bool := true
  showThreadIds : Bool := false
  showFile : Bool := false
  showLineNumber : Bool := false
  json : Bool := false

namespace LogOptions

/-- The usual options. -/
def standard : LogOptions := {}

/-- Everything is shown, for those who work on generators. -/
def development : LogOptions where
  level := .debug
  showThreadIds := true
  showFile := true
  showLineNumber := true

/-- One JSON value for each event, for servers that build. -/
def server : LogOptions where
  showTarget := false
  json := true

end LogOptions

/-- An event: its level, its text, and the element it is about. -/
structure LogEvent where
  level : LogLevel
  message : String
  element : Option Element := none
  deriving DecidableEq

end Wiring
