import Scorebook.Conversation.Chat
import Scorebook.Conversation.Prompt
import Scorebook.Conversation.Reply
import Scorebook.Intent.Validation

/-!
# Extraction of an intent

A model is asked for the intent of a question. A reply that is no object, or an intent that is
turned down, is sent back with what is wrong, up to a number of attempts. The last attempt is final:
an intent is handed on even if it would be turned down, and a reply that is no object is an error. A
request without a text in reply ends the extraction at once.
-/

namespace Scorebook

/-- Why no intent was extracted. -/
inductive ExtractionError where
  /-- A request had no text in reply. -/
  | noReply (error : ReplyError)
  /-- The reply to the last of some attempts is no object. -/
  | unparseable (attempts : Nat) (content : String)
  deriving DecidableEq, Repr

/-- The text of an error. -/
def ExtractionError.message : ExtractionError → String
  | .noReply error => error.message
  | .unparseable attempts content =>
    "Failed to parse intent after " ++ attempts.repr ++ " attempts. Response: " ++ content

/-- What a reply is worth. -/
inductive Verdict where
  /-- It holds a valid intent. -/
  | accepted (intent : Json)
  /-- It holds an intent that is turned down. -/
  | rejected (intent : Json) (reason : Rejection)
  /-- It holds no object. -/
  | unreadable

/-- The worth of a reply. -/
def Catalogue.judge (c : Catalogue) (content : String) : Verdict :=
  match Reply.object? content with
  | none => .unreadable
  | some intent =>
    match c.validate intent with
    | .ok _ => .accepted intent
    | .error reason => .rejected intent reason

/-- What the model is told about an intent that is turned down. -/
def rejectionFeedback (reason : Rejection) : String :=
  "Error: " ++ reason.message ++ ". Please fix this and return the corrected JSON intent."

/-- What the model is told about a reply that holds no object. -/
def unreadableFeedback : String :=
  "Error: your reply was not a valid JSON object. "
    ++ "Return ONLY the JSON intent, no markdown formatting."

/-- The messages with a reply and what is wrong with it. -/
def withFeedback (messages : List ChatMessage) (content feedback : String) : List ChatMessage :=
  messages ++ [⟨.assistant, content⟩, ⟨.user, feedback⟩]

/-- Whom to ask, and how often. -/
structure Extractor (m : Type → Type) where
  /-- The model. -/
  ask : Model m
  /-- The name of the model. -/
  model : String
  /-- The number of attempts; none counts as one. -/
  maxAttempts : Nat

namespace Extractor

variable {m : Type → Type} [Monad m]

/-- The number of attempts. -/
def attempts (e : Extractor m) : Nat := max 1 e.maxAttempts

/-- Ask until an intent is accepted or no attempt is left after this one. -/
def converse (e : Extractor m) (c : Catalogue) :
    (left : Nat) → List ChatMessage → m (Except ExtractionError Json)
  | left, messages => do
    match ← e.ask ⟨e.model, messages, 0⟩ with
    | .error error => return .error (.noReply error)
    | .ok content =>
      match c.judge content, left with
      | .accepted intent, _ => return .ok intent
      | .rejected intent _, 0 => return .ok intent
      | .unreadable, 0 => return .error (.unparseable e.attempts content)
      | .rejected _ reason, left + 1 =>
        e.converse c left (withFeedback messages content (rejectionFeedback reason))
      | .unreadable, left + 1 =>
        e.converse c left (withFeedback messages content unreadableFeedback)

/-- The messages of the first request. -/
def opening (c : Catalogue) (question : String) (defaultSeason : Option Int32) :
    List ChatMessage :=
  [⟨.system, c.prompt defaultSeason⟩, ⟨.user, question⟩]

/-- The intent of a question, as the model gives it. -/
def extract (e : Extractor m) (c : Catalogue) (question : String) (defaultSeason : Option Int32) :
    m (Except ExtractionError Json) :=
  e.converse c (e.attempts - 1) (opening c question defaultSeason)

end Extractor

end Scorebook
