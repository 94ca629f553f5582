import Scorebook.Digest.Sha256
import Scorebook.Intent.Vocabulary
import Scorebook.Json.Printer

/-!
# Intents

What a question asks for, as a record of optional fields. The JSON form writes the fields in one
fixed order and leaves out what is absent, so that equal intents have equal texts; the digest of
that text identifies an intent in a log.
-/

namespace Scorebook

/-- What a question asks for. -/
structure Intent where
  /-- The family of statistics. -/
  queryType : Option QueryType := none
  /-- The split that narrows them. -/
  split : Option Split := none
  /-- The keys of the statistics, or the single key `main_stats`. -/
  metrics : Option (List String) := none
  /-- The name of the player, or a part of it. -/
  subjectName : Option String := none
  /-- The season. -/
  season : Option Int32 := none
  /-- The innings, any of them; no restriction if there are none. -/
  innings : List UInt8 := []
  /-- The number of strikes. -/
  strikes : Option UInt8 := none
  /-- The number of balls. -/
  balls : Option UInt8 := none
  /-- The hand of the pitcher. -/
  pitcherHand : Option Hand := none
  /-- The names of pitches, any of them; no restriction if there are none. -/
  pitchTypes : List String := []
  /-- The score, as the batting team sees it. -/
  score : Option ScoreBucket := none
  /-- The key of the statistic that the rows are sorted by. -/
  orderBy : Option String := none
  /-- The greatest number of rows. -/
  limit : Option UInt32 := none
  /-- The form of the answer. -/
  format : OutputFormat := .narrative
  deriving DecidableEq, Repr

/-- The field names of an intent in its JSON form. -/
inductive IntentField where
  /-- The fields in the order in which they are written. -/
  | queryType | splitType | metrics | subjectName | season | inning | strikes | balls
  | pitcherThrows | pitchType | gameScore | orderBy | limit | outputFormat
  deriving DecidableEq, Repr

instance : Vocabulary IntentField where
  terms := [.queryType, .splitType, .metrics, .subjectName, .season, .inning, .strikes, .balls,
    .pitcherThrows, .pitchType, .gameScore, .orderBy, .limit, .outputFormat]
  name
    | .queryType => "query_type"
    | .splitType => "split_type"
    | .metrics => "metrics"
    | .subjectName => "subject_name"
    | .season => "season"
    | .inning => "inning"
    | .strikes => "strikes"
    | .balls => "balls"
    | .pitcherThrows => "pitcher_throws"
    | .pitchType => "pitch_type"
    | .gameScore => "game_score"
    | .orderBy => "order_by"
    | .limit => "limit"
    | .outputFormat => "output_format"
  complete a := by cases a <;> decide
  distinct := by decide

/-- The key of an intent field. -/
abbrev IntentField.key (field : IntentField) : String := Vocabulary.name field

/-- The word that stands for the default statistics of a context. -/
def mainStats : String := "main_stats"

namespace Intent

/-- The key of the table that answers an intent: the query type, followed by the split if it is one
that exists only within splits. Nothing if either is missing. -/
def contextKey (intent : Intent) : Option String :=
  match intent.queryType with
  | none => none
  | some queryType =>
    if queryType.isSplit then
      intent.split.map fun split => Vocabulary.name queryType ++ "_" ++ Vocabulary.name split
    else some (Vocabulary.name queryType)

/-- Whether the intent asks for the default statistics. -/
def wantsMainStats (intent : Intent) : Bool := intent.metrics == some [mainStats]

/-- The value of a field in the JSON form, unless it is absent. -/
def fieldValue (intent : Intent) : IntentField → Option Json
  | .queryType => intent.queryType.map fun q => .str (Vocabulary.name q)
  | .splitType => intent.split.map fun s => .str (Vocabulary.name s)
  | .metrics => intent.metrics.map Json.strings
  | .subjectName => intent.subjectName.map .str
  | .season => intent.season.map fun n => .int n.toInt
  | .inning =>
    if intent.innings.isEmpty then none
    else some (.arr (intent.innings.map fun n => .int n.toNat))
  | .strikes => intent.strikes.map fun n => .int n.toNat
  | .balls => intent.balls.map fun n => .int n.toNat
  | .pitcherThrows => intent.pitcherHand.map fun h => .str (Vocabulary.name h)
  | .pitchType => if intent.pitchTypes.isEmpty then none else some (Json.strings intent.pitchTypes)
  | .gameScore => intent.score.map fun b => .str (Vocabulary.name b)
  | .orderBy => intent.orderBy.map .str
  | .limit => intent.limit.map fun n => .int n.toNat
  | .outputFormat => some (.str (Vocabulary.name intent.format))

/-- The JSON form: the fields that are present, in their fixed order. -/
def toJson (intent : Intent) : Json :=
  .obj ((Vocabulary.terms (α := IntentField)).filterMap fun field =>
    (intent.fieldValue field).map (field.key, ·))

/-- The digest of the compact JSON form. -/
def fingerprint (intent : Intent) : String := Digest.Sha256.hexDigest intent.toJson.compact

end Intent

end Scorebook
