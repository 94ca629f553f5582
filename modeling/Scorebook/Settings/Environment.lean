import Scorebook.Settings.Basic

/-!
# Settings in the environment

Variables of the environment override the settings of a file. A text is taken as it is, even an
empty one; a variable for a number counts only if it is a decimal number in range.
-/

namespace Scorebook

/-- A variable of the environment that the program reads. -/
inductive Variable where
  /-- The file of the database. -/
  | database
  /-- From how many milliseconds on a query counts as slow. -/
  | slowQueryMs
  /-- The greatest number of rows if the intent gives none. -/
  | defaultLimit
  /-- The name of the language model. -/
  | modelName
  /-- The file of the catalogue. -/
  | cataloguePath
  /-- The filter, the layout, the destination and the directory of the journal. -/
  | logLevel | logFormat | logOutput | logDirectory
  /-- The key for the language model. -/
  | apiKey
  deriving DecidableEq, Repr

instance : Vocabulary Variable where
  terms := [.database, .slowQueryMs, .defaultLimit, .modelName, .cataloguePath, .logLevel,
    .logFormat, .logOutput, .logDirectory, .apiKey]
  name
    | .database => "STATLINE_DATABASE"
    | .slowQueryMs => "STATLINE_SLOW_QUERY_MS"
    | .defaultLimit => "STATLINE_DEFAULT_LIMIT"
    | .modelName => "STATLINE_LLM_MODEL"
    | .cataloguePath => "STATLINE_REGISTRY_PATH"
    | .logLevel => "RUST_LOG"
    | .logFormat => "LOG_FORMAT"
    | .logOutput => "LOG_OUTPUT"
    | .logDirectory => "LOG_DIR"
    | .apiKey => "OPENAI_API_KEY"
  complete a := by cases a <;> decide
  distinct := by decide

/-- The variables of the environment by their names. -/
abbrev Environment := Dict String

namespace Environment

/-- The value of a variable. -/
def value? (env : Environment) (which : Variable) : Option String :=
  env.get? (Vocabulary.name which)

/-- A natural number in ASCII digits, with a plus sign in front if need be. -/
def decimal? (text : String) : Option Nat :=
  let digits := match text.toList with
    | '+' :: rest => rest
    | cs => cs
  if digits.isEmpty || !digits.all Char.isDigit then none
  else some (digits.foldl (fun n c => n * 10 + (c.toNat - '0'.toNat)) 0)

/-- The number in a variable, if it is at most `limit`. -/
def natural? (env : Environment) (limit : Nat) (which : Variable) : Option Nat :=
  ((env.value? which).bind decimal?).filter fun n => decide (n ≤ limit)

/-- Whether a variable can have a text for its value. -/
def canHold (text : String) : Bool := !text.toList.contains '\x00'

/-- Why a variable cannot be set: its value holds a NUL character. -/
def holdComplaint : String := "a variable of the environment cannot hold a NUL character"

/-- Why a variable cannot be used: it is not set. -/
def missingMessage (which : Variable) : String :=
  "Missing required environment variable: " ++ Vocabulary.name which

end Environment

/-- Settings with what the environment says in their place. -/
def Settings.overriddenBy (settings : Settings) (env : Environment) : Settings where
  warehouse := { settings.warehouse with
    database := (env.value? .database).getD settings.warehouse.database }
  engine :=
    { defaultLimit := ((env.natural? (UInt32.size - 1) .defaultLimit).map UInt32.ofNat).getD
        settings.engine.defaultLimit
      slowQueryMs :=
        (env.natural? (UInt64.size - 1) .slowQueryMs).getD settings.engine.slowQueryMs }
  model := { settings.model with model := (env.value? .modelName).getD settings.model.model }
  cataloguePath := (env.value? .cataloguePath).or settings.cataloguePath
  journal :=
    { level := (env.value? .logLevel).getD settings.journal.level
      format := (env.value? .logFormat).getD settings.journal.format
      output := (env.value? .logOutput).getD settings.journal.output
      directory := (env.value? .logDirectory).getD settings.journal.directory }

end Scorebook
