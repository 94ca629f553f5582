import Scorebook.Answer.Plan
import Scorebook.Json.Basic

/-!
# Settings

What the program is told about its database, its limits, its language model, its catalogue and its
journal, with a value for each thing that it is not told.
-/

namespace Scorebook

/-- The settings of the warehouse. -/
structure WarehouseSettings where
  /-- The file of the database. -/
  database : String := "statline.duckdb"
  /-- The milliseconds that a query may take; none for no limit. -/
  timeoutMs : Nat := 30000
  deriving DecidableEq, Repr

/-- The settings of the language model. -/
structure ModelSettings where
  /-- The name of the model. -/
  model : String := "gpt-4o-mini"
  /-- How often the model is asked for an intent. -/
  maxAttempts : Nat := 3
  deriving DecidableEq, Repr

/-- The settings of the journal. -/
structure JournalSettings where
  /-- The filter of the events. -/
  level : String := "info"
  /-- The layout of the events. -/
  format : String := "pretty"
  /-- Where the events go. -/
  output : String := "stdout"
  /-- The directory of the files with events. -/
  directory : String := "./logs"
  deriving DecidableEq, Repr

/-- The settings of the program. -/
structure Settings where
  /-- The warehouse. -/
  warehouse : WarehouseSettings := {}
  /-- The engine. -/
  engine : EngineSettings := {}
  /-- The language model. -/
  model : ModelSettings := {}
  /-- The file of the catalogue; the built-in one if there is none. -/
  cataloguePath : Option String := none
  /-- The journal. -/
  journal : JournalSettings := {}
  deriving DecidableEq, Repr

/-- The layout of events. -/
inductive LogFormat where
  /-- For reading, with several lines an event. -/
  | pretty
  /-- One JSON object an event. -/
  | json
  /-- One line an event. -/
  | compact
  deriving DecidableEq, Repr

/-- The name of a layout. -/
def LogFormat.name : LogFormat → String
  | .pretty => "Pretty"
  | .json => "Json"
  | .compact => "Compact"

/-- Where events go. -/
inductive LogOutput where
  /-- To the console. -/
  | stdout
  /-- To a file. -/
  | file
  /-- To the console and to a file. -/
  | both
  deriving DecidableEq, Repr

/-- The name of a destination. -/
def LogOutput.name : LogOutput → String
  | .stdout => "Stdout"
  | .file => "File"
  | .both => "Both"

/-- The layout that the settings name; anything unknown is the one for reading. -/
def JournalSettings.logFormat (journal : JournalSettings) : LogFormat :=
  if journal.format = "json" then .json
  else if journal.format = "compact" then .compact
  else .pretty

/-- The destination that the settings name; anything unknown is the console. -/
def JournalSettings.logOutput (journal : JournalSettings) : LogOutput :=
  if journal.output = "file" then .file
  else if journal.output = "both" then .both
  else .stdout

namespace Settings

/-- The milliseconds that a query may take, if there is a limit. -/
def queryTimeoutMs (settings : Settings) : Option Nat :=
  if settings.warehouse.timeoutMs = 0 then none else some settings.warehouse.timeoutMs

/-- The JSON form, with every setting. -/
def toJson (settings : Settings) : Json :=
  .obj [
    ("warehouse", .obj [("database", .str settings.warehouse.database),
      ("timeout_ms", .int settings.warehouse.timeoutMs)]),
    ("engine", .obj [("default_limit", .int settings.engine.defaultLimit.toNat),
      ("slow_query_ms", .int settings.engine.slowQueryMs)]),
    ("llm", .obj [("model", .str settings.model.model),
      ("max_attempts", .int settings.model.maxAttempts)]),
    ("registry", .obj [("path", (settings.cataloguePath.map Json.str).getD .null)]),
    ("logging", .obj [("level", .str settings.journal.level),
      ("format", .str settings.journal.format), ("output", .str settings.journal.output),
      ("directory", .str settings.journal.directory)])]

end Settings

end Scorebook
