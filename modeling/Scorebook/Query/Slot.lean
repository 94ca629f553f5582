import Scorebook.Intent.Basic
import Scorebook.Query.Param

/-!
# Placeholders of a query

Every value of an intent enters a query through one of nine placeholders. Two of them hold lists,
and are compared by membership; the name of a player is looked for inside a column, whatever the
case of its letters; all others are compared for equality.
-/

namespace Scorebook

/-- A placeholder of a query. -/
inductive Slot where
  /-- The name of the player. -/
  | playerName
  /-- The season. -/
  | season
  /-- The innings. -/
  | innings
  /-- The hand of the pitcher. -/
  | pitcherThrows
  /-- The types of pitches. -/
  | pitchTypes
  /-- The number of strikes. -/
  | strikes
  /-- The number of balls. -/
  | balls
  /-- The bucket of the score. -/
  | gameScore
  /-- The greatest number of rows. -/
  | limit
  deriving DecidableEq, Repr

instance : Vocabulary Slot where
  terms := [.playerName, .season, .innings, .pitcherThrows, .pitchTypes, .strikes, .balls,
    .gameScore, .limit]
  name
    | .playerName => "player_name"
    | .season => "season"
    | .innings => "innings"
    | .pitcherThrows => "pitcher_throws"
    | .pitchTypes => "pitch_types"
    | .strikes => "strikes"
    | .balls => "balls"
    | .gameScore => "game_score"
    | .limit => "limit"
  complete a := by cases a <;> decide
  distinct := by decide

namespace Slot

/-- The placeholder as it stands in SQL text. -/
def mark (slot : Slot) : String := "@" ++ Vocabulary.name slot

/-- Whether the placeholder holds a list. -/
def isList : Slot → Bool
  | .innings | .pitchTypes => true
  | _ => false

/-- The field of the intent that the value comes from. -/
def field : Slot → IntentField
  | .playerName => .subjectName
  | .season => .season
  | .innings => .inning
  | .pitcherThrows => .pitcherThrows
  | .pitchTypes => .pitchType
  | .strikes => .strikes
  | .balls => .balls
  | .gameScore => .gameScore
  | .limit => .limit

/-- The condition that a column meets the value of the placeholder. -/
def condition (slot : Slot) (column : String) : String :=
  match slot with
  | .playerName => "LOWER(" ++ column ++ ") LIKE CONCAT('%', LOWER(" ++ slot.mark ++ "), '%')"
  | .innings | .pitchTypes => column ++ " IN UNNEST(" ++ slot.mark ++ ")"
  | _ => column ++ " = " ++ slot.mark

end Slot

/-- The conventions under which the values of an intent are bound. -/
structure Binding where
  /-- How a hand is written in the data. -/
  handText : Hand → String
  /-- The greatest number of rows if the intent gives none. -/
  defaultLimit : UInt32

/-- The value of an intent for a placeholder, if it has one. -/
def Intent.value? (intent : Intent) (binding : Binding) : Slot → Option Param
  | .playerName => intent.subjectName.map .text
  | .season => intent.season.map fun n => .int n.toInt64
  | .innings =>
    if intent.innings.isEmpty then none
    else some (.ints (intent.innings.map fun n => Int64.ofNat n.toNat))
  | .pitcherThrows => intent.pitcherHand.map fun hand => .text (binding.handText hand)
  | .pitchTypes => if intent.pitchTypes.isEmpty then none else some (.texts intent.pitchTypes)
  | .strikes => intent.strikes.map fun n => .int (Int64.ofNat n.toNat)
  | .balls => intent.balls.map fun n => .int (Int64.ofNat n.toNat)
  | .gameScore => intent.score.map fun bucket => .text (Vocabulary.name bucket)
  | .limit => some (.int (Int64.ofNat (intent.limit.getD binding.defaultLimit).toNat))

end Scorebook
