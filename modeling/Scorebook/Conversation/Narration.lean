import Scorebook.Answer.Desk
import Scorebook.Conversation.Chat
import Scorebook.Json.Printer
import Scorebook.Text.Blank

/-!
# Narration of a table

A model is asked to answer a question in a few sentences from the rows of a table. The reply is
trimmed, and counts as missing if nothing remains.
-/

namespace Scorebook

/-- What the model is told before it answers. -/
def narrationRules : String :=
  "You answer baseball statistics questions in one to three plain sentences, using only the rows "
    ++ "provided. Quote numbers as given. If the rows do not answer the question, say so."

/-- The messages of the request for a narration. -/
def narrationMessages (question : String) (table : AnswerTable) : List ChatMessage :=
  [⟨.system, narrationRules⟩,
   ⟨.user, "Question: " ++ question ++ "\n\nRows: " ++ table.rowsJson.compact⟩]

/-- The narration that a reply holds. -/
def narrationOf : ModelReply → Except NarrationError String
  | .error error => .error (.request error.message)
  | .ok content =>
    let text := Text.trim content.toList
    if text.isEmpty then .error .empty else .ok (String.ofList text)

/-- A table told in words by a model. -/
def narrate {m : Type → Type} [Monad m] (ask : Model m) (model question : String)
    (table : AnswerTable) : m (Except NarrationError String) :=
  return narrationOf (← ask ⟨model, narrationMessages question table, 2⟩)

end Scorebook
