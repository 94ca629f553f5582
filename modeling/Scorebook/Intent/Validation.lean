import Scorebook.Catalogue.Basic
import Scorebook.Intent.Reader
import Scorebook.Intent.Rejection
import Scorebook.Text.Blank
import Scorebook.Text.Case
import Scorebook.Text.Search

/-!
# Validation of proposed intents

An intent proposed by a language model is not trusted: every field is checked against its
vocabulary, its range, or the catalogue before a query is made of it. The fields are checked in one
fixed order and the first failure counts. A `null` field is absent, an empty name is absent too, a
single inning or type of pitch stands for a list of one, and repeated items are dropped.
-/

namespace Scorebook

/-- Tokens of SQL that no name may hold, in capitals. -/
def sqlTokens : List String :=
  ["SELECT", "INSERT", "UPDATE", "DELETE", "DROP", "UNION", "TRUNCATE", "CREATE", "EXEC", "MERGE",
   "--", "/*", "*/", ";", "XP_"]

/-- The seasons that a question may be about. -/
def seasonRange : IntRange := ⟨1900, 2100⟩

/-- The innings of a game. -/
def inningRange : IntRange := ⟨1, 9⟩

/-- The numbers of strikes, and of balls. -/
def countRange : IntRange := ⟨0, 3⟩

/-- The numbers of rows that an intent may limit an answer to. -/
def limitRange : IntRange := ⟨1, 1000⟩

/-- The greatest length of a type of pitch. -/
def maxPitchNameLength : Nat := 50

/-- Whether a character may stand in the name of a player. -/
def isNameChar (c : Char) : Bool :=
  c.isAlpha || Text.isBlank c || c == '.' || c == '-' || c == '\''

/-- Whether a character may stand in a type of pitch. -/
def isPitchChar (c : Char) : Bool := c.isAlpha || c == ' ' || c == '-'

/-- The first token of SQL in a name, whatever the case of its letters. -/
def tokenIn? (name : String) : Option String :=
  let capitals := Text.upper name.toList
  sqlTokens.find? fun token => Text.occursIn token.toList capitals

namespace Intent

/-- A field of a proposal; `null` counts as absent. -/
def present? (fields : List (String × Json)) (field : IntentField) : Option Json :=
  (fields.lookup field.key).filter fun value => !value.isNull

/-- The check of a field if it is present, and a value for its absence otherwise. -/
def whenPresent {α : Type} (absent : α) (check : IntentField → Json → Except Rejection α)
    (fields : List (String × Json)) (field : IntentField) : Except Rejection α :=
  match present? fields field with
  | none => .ok absent
  | some value => check field value

/-- The check of a field whose absence is part of the intent. -/
def optional {α : Type} (check : IntentField → Json → Except Rejection α) :
    List (String × Json) → IntentField → Except Rejection (Option α) :=
  whenPresent none fun field value => (check field value).map some

/-- A string. -/
def stringValue (field : IntentField) (value : Json) : Except Rejection String :=
  match value.text? with
  | some text => .ok text
  | none => .error (.wrongType field .string)

/-- A whole number that fits into 64 bits with a sign. -/
def intValue (field : IntentField) (value : Json) : Except Rejection Int :=
  match intWithin? (.signed 64) value with
  | some n => .ok n
  | none => .error (.wrongType field .integer)

/-- A whole number within the range of its field. -/
def intInRange (range : IntRange) (field : IntentField) (value : Json) : Except Rejection Int := do
  let n ← intValue field value
  if range.holds n then .ok n else .error (.outOfRange field n)

/-- A term of a vocabulary by one of its texts. -/
def termValue {α : Type} (ofText? : String → Option α) (field : IntentField) (value : Json) :
    Except Rejection α := do
  match ofText? (← stringValue field value) with
  | some term => .ok term
  | none => .error (.unknownTerm field)

/-- The items of a list, or a single value as a list of one. -/
def itemsOrOne : Json → List Json
  | .arr items => items
  | single => [single]

/-- The items of a list, or a single value, each checked, with repetitions dropped. -/
def distinctItems {α : Type} [BEq α] (check : IntentField → Json → Except Rejection α)
    (field : IntentField) (value : Json) : Except Rejection (List α) :=
  ((itemsOrOne value).mapM (check field)).map List.eraseDups

/-- The name of a player; tokens of SQL are looked for before the characters are checked. -/
def nameValue (field : IntentField) (value : Json) : Except Rejection (Option String) := do
  let name ← stringValue field value
  if name.isEmpty then .ok none
  else if maxNameLength < name.length then .error (.nameTooLong name.length)
  else match tokenIn? name with
    | some token => .error (.nameToken token)
    | none => if name.toList.all isNameChar then .ok (some name) else .error .nameCharacters

/-- A type of pitch. -/
def pitchValue (field : IntentField) (value : Json) : Except Rejection String := do
  let name ← stringValue field value
  if name.isEmpty || decide (maxPitchNameLength < name.length) || !name.toList.all isPitchChar then
    .error .pitchName
  else .ok name

/-- The key of a metric that the catalogue knows. -/
def metricKey (c : Catalogue) (field : IntentField) (metric : String) :
    Except Rejection String :=
  if c.knowsMetric metric then .ok metric else .error (.unknownMetric field metric)

/-- A list of metrics: the single word for the defaults, or keys that the catalogue knows. All items
are read before the first is looked up. -/
def metricsValue (c : Catalogue) (field : IntentField) (value : Json) :
    Except Rejection (List String) :=
  match value.items? with
  | none => .error (.wrongType field .list)
  | some items => do
    let metrics ← items.mapM (stringValue field)
    if metrics = [mainStats] then .ok metrics else metrics.mapM (metricKey c field)

end Intent

open Intent in
/-- The intent that a proposal stands for, or the first reason to turn it down. -/
def Catalogue.validate (c : Catalogue) (proposal : Json) : Except Rejection Intent :=
  match proposal.fields? with
  | none => .error .notAnObject
  | some fields => do
    let subjectName ← whenPresent none nameValue fields .subjectName
    let season ← optional (intInRange seasonRange) fields .season
    let queryType ← optional (termValue Vocabulary.ofName?) fields .queryType
    let split ← optional (termValue Vocabulary.ofName?) fields .splitType
    let metrics ← optional (metricsValue c) fields .metrics
    let orderBy ←
      optional (fun field v => stringValue field v >>= metricKey c field) fields .orderBy
    let pitcherHand ← optional (termValue Vocabulary.ofName?) fields .pitcherThrows
    let innings ← whenPresent [] (distinctItems (intInRange inningRange)) fields .inning
    let strikes ← optional (intInRange countRange) fields .strikes
    let balls ← optional (intInRange countRange) fields .balls
    let pitchTypes ← whenPresent [] (distinctItems pitchValue) fields .pitchType
    let score ← optional (termValue Vocabulary.ofName?) fields .gameScore
    let limit ← optional (intInRange limitRange) fields .limit
    let format ← whenPresent .narrative (termValue OutputFormat.ofText?) fields .outputFormat
    return {
      queryType, split, metrics, subjectName
      season := season.map Int32.ofInt
      innings := innings.map fun n => UInt8.ofNat n.toNat
      strikes := strikes.map fun n => UInt8.ofNat n.toNat
      balls := balls.map fun n => UInt8.ofNat n.toNat
      pitcherHand, pitchTypes, score, orderBy
      limit := limit.map fun n => UInt32.ofNat n.toNat
      format }

end Scorebook
