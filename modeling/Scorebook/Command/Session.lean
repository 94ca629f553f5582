import Scorebook.Catalogue.BuiltIn
import Scorebook.Catalogue.Document
import Scorebook.Command.Arguments
import Scorebook.Conversation.Extraction
import Scorebook.Conversation.Narration
import Scorebook.Journal.Filter
import Scorebook.Settings.EnvFile
import Scorebook.Settings.Load

/-!
# A session of the command line

From the arguments to the text on the standard output: settings, journal, catalogue, intent, and
then either the plan or the response. What lies outside, namely files, variables, the language model
and the warehouse, is a parameter, so that a session runs on a computer as well as on a script. The
first error ends a session. The journal covers the steps up to the plan, but not what is noted while
the language model is asked. A session breaks down where the environment cannot hold a variable, or
where the file of the journal cannot be made.
-/

namespace Scorebook

/-- What a session finds outside. -/
structure World (m : Type → Type) where
  /-- What is found under the name of a file. -/
  fileEntry : String → m FileEntry
  /-- The value of a variable of the environment. -/
  getVariable : String → m (Option String)
  /-- The language model, for a key. -/
  model : String → Model m
  /-- The warehouse in a file, if it can be opened. -/
  warehouse : String → m (Option (Query → m Execution))
  /-- Whether a file with events can be made in a directory. -/
  canLogIn : String → m Bool

/-- What a session leaves behind. -/
structure Report where
  /-- The exit code. -/
  exitCode : UInt8 := 0
  /-- The text on the standard output. -/
  output : String := ""
  /-- The error that ended the session. -/
  error : Option String := none
  /-- The complaint with which the session broke down. -/
  complaint : Option String := none
  /-- The settings of the journal, once it was set up. -/
  journal : Option JournalSettings := none
  /-- The events, whether the journal admits them or not. -/
  events : List Event := []

namespace Report

/-- The report of a session that broke down. -/
def brokenDown (complaint : String) : Report := { exitCode := 101, complaint := some complaint }

/-- The events that the journal admits. -/
def admittedEvents (report : Report) : List Event :=
  match report.journal with
  | none => []
  | some journal => report.events.filter (Filter.ofText journal.level).admits

/-- The events that are written to the console. -/
def consoleEvents (report : Report) : List Event :=
  if report.journal.any fun journal => journal.logOutput == .file then []
  else report.admittedEvents

/-- The directory in which a file with events is made, if one is. -/
def logDirectory? (report : Report) : Option String :=
  report.journal.bind fun journal =>
    if journal.logOutput = .stdout then none else some journal.directory

end Report

/-- The name of a file with events, in front of the date. -/
def logFileStem : String := "statline-agent.log"

namespace Session

variable {m : Type → Type} [Monad m]

/-- The variables that the program reads, the file of variables included. -/
def environment (world : World m) : m Environment := do
  let assigned ← match ← world.fileEntry ".env" with
    | .text content => pure (EnvFile.assignments content)
    | _ => pure []
  let names := Vocabulary.names Variable ++ assigned.flatMap EnvFile.Assignment.names
  let set ← names.filterMapM fun name => do
    return (← world.getVariable name).map (name, ·)
  return EnvFile.extend (Dict.ofList set) assigned

/-- A step that may note events and may end the session with an error. -/
abbrev Step (m : Type → Type) := ExceptT String (StateT (List Event) m)

/-- An event is noted. -/
def note (event : Event) : Step m Unit := modify (· ++ [event])

/-- A result, or the end of the session. -/
def orFail {ε α : Type} (text : ε → String) : Except ε α → Step m α
  | .ok a => pure a
  | .error e => throw (text e)

/-- An action outside. -/
def outside {α : Type} (action : m α) : Step m α :=
  ExceptT.lift (StateT.lift action)

/-- The key for the language model. -/
def apiKey (env : Environment) : Step m String :=
  match env.value? .apiKey with
  | some key => pure key
  | none => throw (Environment.missingMessage .apiKey)

/-- The catalogue that the settings name, or the built-in one. -/
def catalogue (world : World m) (settings : Settings) : Step m Catalogue :=
  match settings.cataloguePath with
  | none => pure Catalogue.builtIn
  | some path => do
    let failure := "loading metric registry " ++ path
    match ← outside (world.fileEntry path) with
    | .text content => orFail (fun _ => failure) (Catalogue.load content)
    | _ => throw failure

/-- The intent that is given, or else the one that the language model extracts. -/
def proposal (world : World m) (env : Environment) (settings : Settings) (c : Catalogue)
    (args : Arguments) : Step m Json :=
  match args.intent with
  | some text =>
    match Json.parse? text with
    | some value => pure value
    | none => throw "--intent is not valid JSON"
  | none => do
    note ⟨.info, .program, "Extracting intent", [("model", .str settings.model.model)]⟩
    let extractor : Extractor m :=
      ⟨world.model (← apiKey env), settings.model.model, settings.model.maxAttempts⟩
    let extracted ← outside (extractor.extract c args.question args.season)
    orFail ExtractionError.message extracted

/-- The plan as a text. -/
def showPlan (engine : Engine) (proposed : Json) : Step m String := do
  let outcome := engine.plan proposed
  (planEvents outcome).forM note
  let plan ← orFail PlanError.message outcome
  return plan.toJson.indented ++ "\n"

/-- The response as a text. -/
def showResponse (world : World m) (env : Environment) (settings : Settings) (engine : Engine)
    (question : String) (proposed : Json) : Step m String := do
  match ← outside (world.warehouse settings.warehouse.database) with
  | none => throw ("opening " ++ settings.warehouse.database)
  | some execute =>
    let key ← apiKey env
    let desk : Desk m := ⟨execute, narrate (world.model key) settings.model.model⟩
    (planEvents (engine.plan proposed)).forM note
    let response ← outside (engine.answer desk question proposed)
    return response.toJson.indented ++ "\n"

/-- The steps behind the settings. -/
def steps (world : World m) (env : Environment) (settings : Settings) (args : Arguments) :
    Step m String := do
  note ⟨.debug, .journal, "Logging initialized",
    [("format", .str settings.journal.logFormat.name),
     ("output", .str settings.journal.logOutput.name)]⟩
  let c ← catalogue world settings
  note ⟨.info, .program, "Metric registry loaded", [("version", .str c.version)]⟩
  let engine : Engine := ⟨c, settings.engine⟩
  let proposed ← proposal world env settings c args
  if args.plan then showPlan engine proposed
  else showResponse world env settings engine args.question proposed

/-- Why the journal cannot be set up, if it cannot. Its settings are variables of the
environment. -/
def journalComplaint? (world : World m) (journal : JournalSettings) : m (Option String) := do
  let texts := [journal.level, journal.format, journal.output, journal.directory]
  if !texts.all Environment.canHold then return some Environment.holdComplaint
  else if journal.logOutput = .stdout then return none
  else if ← world.canLogIn journal.directory then return none
  else return some ("cannot make a file of events in " ++ journal.directory)

/-- The session of well-formed arguments. -/
def withArguments (world : World m) (env : Environment) (args : Arguments) : m Report := do
  match Settings.loadOrDefault env (← world.fileEntry args.configPath) with
  | .error _ => return { exitCode := 1, error := some ("loading " ++ args.configPath) }
  | .ok settings =>
    match ← journalComplaint? world settings.journal with
    | some complaint => return Report.brokenDown complaint
    | none =>
      let (result, events) ← ((steps world env settings args).run).run []
      let journal := some settings.journal
      match result with
      | .ok output => return { output, journal, events }
      | .error error => return { exitCode := 1, error := some error, journal, events }

/-- The session of a list of arguments. -/
def run (world : World m) (texts : List String) : m Report := do
  let env ← environment world
  if !env.entries.all fun entry => Environment.canHold entry.2 then
    return Report.brokenDown Environment.holdComplaint
  else match Arguments.ofList texts with
  | .error .usage => return { exitCode := 2 }
  | .error .version => return { output := Arguments.versionText }
  | .error .help => return { output := Arguments.helpText }
  | .ok args => withArguments world env args

end Session

end Scorebook
