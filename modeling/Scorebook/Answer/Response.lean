import Scorebook.Answer.Table

/-!
# Responses

How a question ends: with a table, with a text, or with one of four fixed messages. The messages
tell nothing of the intent, the query or the error behind them.
-/

namespace Scorebook

/-- The end of a question. -/
inductive Response where
  /-- The answer is a table. -/
  | table (shown : AnswerTable)
  /-- The answer is a text. -/
  | narrative (text : String)
  /-- No row matches the question. -/
  | noData
  /-- The question was turned down. -/
  | rejected
  /-- No query can answer the question. -/
  | unanswerable
  /-- The query failed. -/
  | failed (kind : FailureKind)
  deriving Repr

namespace Response

/-- A status with a message. -/
def notice (status message : String) : Json :=
  .obj [("status", .str status), ("message", .str message)]

/-- The JSON form, told apart by its status. -/
def toJson : Response → Json
  | .table shown => .obj (("status", .str "table") :: shown.fields)
  | .narrative text => .obj [("status", .str "narrative"), ("narrative_text", .str text)]
  | .noData => notice "no_data" "No statistics matched that question."
  | .rejected => notice "rejected" "That question can't be answered as asked. Please rephrase it."
  | .unanswerable =>
    notice "unanswerable" "That question can't be answered with the statistics available."
  | .failed kind =>
    .obj [("status", .str "failed"), ("kind", .str (Vocabulary.name kind)),
      ("message", .str kind.userMessage)]

end Response

end Scorebook
