import Scorebook.Intent.Validation
import Scorebook.Query.Compile

/-!
# Plans

A proposed intent is validated, a strategy is chosen and a query is compiled. Nothing outside takes
part in this, so a plan depends on the proposal, the catalogue and the settings alone.
-/

namespace Scorebook

/-- The settings of an engine. -/
structure EngineSettings where
  /-- The greatest number of rows if the intent gives none. -/
  defaultLimit : UInt32 := 100
  /-- From how many milliseconds on a query counts as slow. -/
  slowQueryMs : Nat := 5000
  deriving DecidableEq, Repr

/-- What answers questions: a catalogue with settings. -/
structure Engine where
  /-- The catalogue. -/
  catalogue : Catalogue
  /-- The settings. -/
  settings : EngineSettings := {}
  deriving DecidableEq, Repr

/-- A valid intent with the query that answers it. -/
structure Plan where
  /-- The intent. -/
  intent : Intent
  /-- The strategy that was chosen. -/
  strategy : Strategy
  /-- The query. -/
  query : Query
  deriving DecidableEq, Repr

/-- Why there is no plan. -/
inductive PlanError where
  /-- The proposal was turned down. -/
  | rejected (reason : Rejection)
  /-- The intent is valid, but no query answers it. -/
  | unanswerable (intent : Intent) (obstacle : Obstacle)
  deriving DecidableEq, Repr

/-- Where the answer to an intent is looked for: in the single pitches, or in the table of the
context, which has no name if the intent has no context. -/
def Intent.planContext (intent : Intent) : String :=
  match intent.strategy with
  | .aggregated => intent.contextKey.getD ""
  | .eventLevel => Vocabulary.name Strategy.eventLevel

/-- The text of an error. -/
def PlanError.message : PlanError → String
  | .rejected reason => "Intent rejected: " ++ reason.message
  | .unanswerable intent _ =>
    "No query can answer this intent (context: " ++ intent.planContext ++ ")"

/-- The plan for a valid intent. -/
def Engine.planIntent (engine : Engine) (intent : Intent) : Except PlanError Plan :=
  match engine.catalogue.compile intent.strategy engine.settings.defaultLimit intent with
  | .ok query => .ok ⟨intent, intent.strategy, query⟩
  | .error obstacle => .error (.unanswerable intent obstacle)

/-- The plan for a proposed intent. -/
def Engine.plan (engine : Engine) (proposal : Json) : Except PlanError Plan :=
  match engine.catalogue.validate proposal with
  | .ok intent => engine.planIntent intent
  | .error reason => .error (.rejected reason)

/-- The JSON form of a plan. -/
def Plan.toJson (plan : Plan) : Json :=
  .obj [("intent", plan.intent.toJson), ("strategy", .str (Vocabulary.name plan.strategy)),
    ("query", plan.query.toJson)]

end Scorebook
