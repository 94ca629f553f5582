import Scorebook.Intent.Basic

/-!
# Rejections

Why a proposed intent is turned down. A rejection names the field and the rule; its text is meant
for a log and for the author of the proposal, not for the person who asked.
-/

namespace Scorebook

/-- The kind of value that a field has to have. -/
inductive FieldKind where
  /-- A string. -/
  | string
  /-- A list. -/
  | list
  /-- A whole number. -/
  | integer
  deriving DecidableEq, Repr

/-- The kind in words. -/
def FieldKind.phrase : FieldKind → String
  | .string => "a string"
  | .list => "a list"
  | .integer => "an integer"

/-- Why an intent is turned down. -/
inductive Rejection where
  /-- The intent is not an object. -/
  | notAnObject
  /-- A field has a value of the wrong kind. -/
  | wrongType (field : IntentField) (expected : FieldKind)
  /-- The name of the player is too long. -/
  | nameTooLong (length : Nat)
  /-- The name of the player has a character that names do not have. -/
  | nameCharacters
  /-- The name of the player holds a token of SQL. -/
  | nameToken (token : String)
  /-- A number lies outside the range of its field. -/
  | outOfRange (field : IntentField) (value : Int)
  /-- A field names no term of its vocabulary. -/
  | unknownTerm (field : IntentField)
  /-- A field names a metric that the catalogue does not know. -/
  | unknownMetric (field : IntentField) (metric : String)
  /-- A type of pitch is not written like one. -/
  | pitchName
  deriving DecidableEq, Repr

/-- The greatest length of the name of a player. -/
def maxNameLength : Nat := 100

namespace Rejection

/-- The name of the rule that was broken. -/
def rule : Rejection → String
  | .notAnObject => "intent.object"
  | .wrongType _ _ => "field.type"
  | .nameTooLong _ => "subject_name.length"
  | .nameCharacters => "subject_name.charset"
  | .nameToken _ => "subject_name.sql_token"
  | .outOfRange _ _ => "field.range"
  | .unknownTerm _ => "field.enum"
  | .unknownMetric _ _ => "metric.unknown"
  | .pitchName => "pitch_type.charset"

/-- The text of a rejection. -/
def message : Rejection → String
  | .notAnObject => "Intent is not a JSON object"
  | .wrongType field expected => "Field " ++ field.key ++ " must be " ++ expected.phrase
  | .nameTooLong length =>
    "subject_name is " ++ length.repr ++ " characters (max " ++ maxNameLength.repr ++ ")"
  | .nameCharacters => "subject_name contains characters outside the allowed set"
  | .nameToken token => "subject_name contains SQL token " ++ token
  | .outOfRange field value =>
    "Field " ++ field.key ++ " out of range: " ++ String.ofList (Json.intText value)
  | .unknownTerm field => "Field " ++ field.key ++ " is not an allowed value"
  | .unknownMetric field metric =>
    "Field " ++ field.key ++ " references unknown metric " ++ metric
  | .pitchName => "pitch_type entry is not a valid pitch name"

end Rejection

end Scorebook
