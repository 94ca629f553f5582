import Scorebook.Intent.Vocabulary
import Scorebook.Text.Case
import Scorebook.Text.Search

/-!
# Failures of a warehouse

A failed query is sorted into one of three kinds by words in its text, whatever the case of their
letters. The person who asked is told the kind and nothing of the text.
-/

namespace Scorebook

/-- Why a query failed. -/
inductive WarehouseError where
  /-- The database reports an error. -/
  | database (message : String)
  /-- The values could not be bound. -/
  | binding (message : String)
  /-- The query took too long. -/
  | timeout
  deriving DecidableEq, Repr

/-- The text of an error. -/
def WarehouseError.message : WarehouseError → String
  | .database message => "Database error: " ++ message
  | .binding message => "Parameter binding failed: " ++ message
  | .timeout => "Query timeout"

/-- The kind of a failure. -/
inductive FailureKind where
  /-- The query took too long. -/
  | timeout
  /-- The warehouse refuses more queries for now. -/
  | quota
  /-- Anything else. -/
  | other
  deriving DecidableEq, Repr

instance : Vocabulary FailureKind where
  terms := [.timeout, .quota, .other]
  name
    | .timeout => "timeout"
    | .quota => "quota"
    | .other => "other"
  complete a := by cases a <;> decide
  distinct := by decide

namespace FailureKind

/-- What the person who asked is told. -/
def userMessage : FailureKind → String
  | .timeout => "The query took too long to run. Try narrowing it to a single season or player."
  | .quota => "The statistics service is busy right now. Please try again shortly."
  | .other => "Something went wrong while fetching the statistics."

/-- Words that tell of a query that took too long. -/
def timeoutWords : List String := ["timeout", "timed out", "deadline exceeded"]

/-- Words that tell of a warehouse that refuses more queries. -/
def quotaWords : List String := ["quota", "rate limit", "resources exceeded"]

/-- The kind of a failure by the words of its text; signs of a timeout count first. -/
def classify (message : String) : FailureKind :=
  let text := Text.lower message.toList
  if timeoutWords.any fun word => Text.occursIn word.toList text then .timeout
  else if quotaWords.any fun word => Text.occursIn word.toList text then .quota
  else .other

end FailureKind

end Scorebook
