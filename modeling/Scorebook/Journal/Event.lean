import Scorebook.Answer.Plan

/-!
# Events

What the program notes about its own work: each event has a level, the part of the program that
notes it, a message and fields. The events of a plan follow from its outcome.
-/

namespace Scorebook

/-- How much an event matters. -/
inductive Level where
  /-- From what must not happen down to single steps. -/
  | error | warn | info | debug | trace
  deriving DecidableEq, Repr

namespace Level

/-- The number of a level; events of a greater one matter less. -/
def rank : Level → Nat
  | .error => 1
  | .warn => 2
  | .info => 3
  | .debug => 4
  | .trace => 5

/-- The name of a level. -/
def name : Level → String
  | .error => "ERROR"
  | .warn => "WARN"
  | .info => "INFO"
  | .debug => "DEBUG"
  | .trace => "TRACE"

end Level

/-- A part of the program that notes events. -/
inductive Target where
  /-- The program itself. -/
  | program
  /-- The journal. -/
  | journal
  /-- The validation of intents. -/
  | validation
  /-- The choice of a strategy. -/
  | strategy
  /-- The statements over tables of statistics. -/
  | aggregated
  /-- The statements over single pitches. -/
  | eventLevel
  /-- The plans. -/
  | engine
  deriving DecidableEq, Repr

/-- The path of a part of the program, which filters go by. -/
def Target.path : Target → String
  | .program => "statline_agent"
  | .journal => "statline_agent::logging"
  | .validation => "statline_engine::validate"
  | .strategy => "statline_engine::strategy"
  | .aggregated => "statline_engine::compile::aggregated"
  | .eventLevel => "statline_engine::compile::event_level"
  | .engine => "statline_engine::engine"

/-- An event. -/
structure Event where
  /-- How much it matters. -/
  level : Level
  /-- The part of the program that notes it. -/
  target : Target
  /-- The message. -/
  message : String
  /-- The other fields. -/
  fields : List (String × Json) := []

/-- Whether an event carries a field; every one carries its message. -/
def Event.hasField (event : Event) (name : String) : Bool :=
  name == "message" || event.fields.any (·.1 == name)

/-- The JSON form of an event. -/
def Event.toJson (event : Event) : Json :=
  .obj [("level", .str event.level.name), ("target", .str event.target.path),
    ("fields", .obj (("message", .str event.message) :: event.fields))]

/-- The event of a rejection. -/
def Rejection.event (reason : Rejection) : Event :=
  { level := .warn
    target := .validation
    message := "Intent rejected"
    fields := [("rule", .str reason.rule), ("reason", .str reason.message)] }

/-- The events of the choice of a strategy: a warning if every season will be read. -/
def Intent.strategyEvents (intent : Intent) : List Event :=
  if intent.scansEverySeason then
    [{ level := .warn
       target := .strategy
       message := "Event-level scan without a season filter will aggregate every season"
       fields := [("conditions", .int intent.conditionCount)] }]
  else []

/-- The event of an obstacle. An incomplete intent is not noted. -/
def Obstacle.event? : Obstacle → Option Event
  | .incomplete => none
  | .noTable context =>
    some ⟨.debug, .aggregated, "No table configured for context", [("context", .str context)]⟩
  | .noMetric context =>
    some ⟨.debug, .aggregated, "No requested metric applies to context",
      [("context", .str context)]⟩
  | .noColumn context field =>
    some ⟨.debug, .aggregated, "Table has no column for requested filter",
      [("context", .str context), ("filter", .str field.key)]⟩
  | .noMaster => some ⟨.debug, .eventLevel, "No master table configured", []⟩

/-- The events of a plan. -/
def Plan.events (plan : Plan) : List Event :=
  [{ level := .info
     target := .engine
     message := "Intent compiled"
     fields := [("strategy", .str (Vocabulary.name plan.strategy)),
       ("context", .str plan.intent.planContext),
       ("intent_fingerprint", .str plan.intent.fingerprint)] },
   { level := .debug
     target := .engine
     message := "Compiled SQL"
     fields := [("sql", .str plan.query.sql)] }]

/-- The events on the way to a plan, or to the error that ends it. -/
def planEvents : Except PlanError Plan → List Event
  | .error (.rejected reason) => [reason.event]
  | .error (.unanswerable intent obstacle) =>
    intent.strategyEvents ++ obstacle.event?.toList
  | .ok plan => plan.intent.strategyEvents ++ plan.events

end Scorebook
