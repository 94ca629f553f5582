import Scorebook.Answer.Plan
import Scorebook.Answer.Response

/-!
# Answering a question

An engine answers a question with the help of a desk: someone who runs queries and someone who tells
a table in words. What they do is left open, so that a desk may be a database and a language model,
or a script. The query runs only if there is a plan, once; the table is told in words only if the
intent asks for a narrative and there are rows; and where the words are missing, the table is the
answer.
-/

namespace Scorebook

/-- Why a table was not told in words. -/
inductive NarrationError where
  /-- The request failed. -/
  | request (message : String)
  /-- There was no text. -/
  | empty
  deriving DecidableEq, Repr

/-- The text of an error. -/
def NarrationError.message : NarrationError → String
  | .request message => "Narration request failed: " ++ message
  | .empty => "Narrator returned no text"

/-- The helpers of an engine. -/
structure Desk (m : Type → Type) where
  /-- Runs a query. -/
  execute : Query → m Execution
  /-- Tells the table that answers a question in words. -/
  narrate : String → AnswerTable → m (Except NarrationError String)

namespace Engine

variable {m : Type → Type} [Monad m]

/-- The response to a question whose answer is a table. -/
def present (desk : Desk m) (question : String) (format : OutputFormat) (table : AnswerTable) :
    m Response :=
  match format with
  | .table => pure (.table table)
  | .narrative => do
    match ← desk.narrate question table with
    | .ok text => return .narrative text
    | .error _ => return .table table

/-- The response to a question with a plan. -/
def carryOut (engine : Engine) (desk : Desk m) (question : String) (plan : Plan) :
    m Response := do
  match ← desk.execute plan.query with
  | .error error => return .failed (FailureKind.classify error.message)
  | .ok result =>
    if result.isEmpty then return .noData
    else present desk question plan.intent.format (engine.catalogue.table result)

/-- The response to a question for which an intent is proposed. -/
def answer (engine : Engine) (desk : Desk m) (question : String) (proposal : Json) : m Response :=
  match engine.plan proposal with
  | .error (.rejected _) => pure .rejected
  | .error (.unanswerable _ _) => pure .unanswerable
  | .ok plan => engine.carryOut desk question plan

end Engine

end Scorebook
