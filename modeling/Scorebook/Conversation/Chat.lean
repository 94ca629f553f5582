/-!
# Chats with a language model

A request is a list of messages for a model, and a reply is a text, or the reason why there is none.
-/

namespace Scorebook

/-- Who speaks. -/
inductive Role where
  /-- The one who sets the task. -/
  | system
  /-- The one who asks. -/
  | user
  /-- The model. -/
  | assistant
  deriving DecidableEq, Repr

/-- The name of a role. -/
def Role.name : Role → String
  | .system => "system"
  | .user => "user"
  | .assistant => "assistant"

/-- A message of a chat. -/
structure ChatMessage where
  /-- Who speaks. -/
  role : Role
  /-- What is said. -/
  content : String
  deriving DecidableEq, Repr

/-- A request for the next message of a chat. -/
structure ChatRequest where
  /-- The name of the model. -/
  model : String
  /-- The messages so far. -/
  messages : List ChatMessage
  /-- How freely the model chooses its words, in tenths; 0 for the likeliest ones. -/
  temperature : Nat
  deriving DecidableEq, Repr

/-- Why a request has no text in reply. -/
inductive ReplyError where
  /-- The request failed. -/
  | failed (message : String)
  /-- The reply has no text. -/
  | silent
  deriving DecidableEq, Repr

/-- The text of an error. -/
def ReplyError.message : ReplyError → String
  | .failed message => "OpenAI request failed: " ++ message
  | .silent => "No response from OpenAI"

/-- A reply of a model. -/
abbrev ModelReply := Except ReplyError String

/-- A model: what it replies to a request. -/
abbrev Model (m : Type → Type) := ChatRequest → m ModelReply

end Scorebook
