import Scorebook.Intent.Basic

/-!
# Conditions and strategies

A table of statistics covers one situational condition. Two or more together are covered by no
table, and the single pitches have to be added up.
-/

namespace Scorebook.Intent

/-- The situational conditions that an intent may carry, each present or not. -/
def conditions (intent : Intent) : List Bool :=
  [!intent.innings.isEmpty, intent.strikes.isSome, intent.balls.isSome, intent.pitcherHand.isSome,
   !intent.pitchTypes.isEmpty, intent.split.any Split.isSituational, intent.score.isSome]

/-- The number of situational conditions. -/
def conditionCount (intent : Intent) : Nat := intent.conditions.count true

/-- The number of conditions from which on single pitches are added up. -/
def eventLevelThreshold : Nat := 2

/-- The strategy that answers an intent. -/
def strategy (intent : Intent) : Strategy :=
  if intent.conditionCount < eventLevelThreshold then .aggregated else .eventLevel

/-- Whether the strategy reads the pitches of every season. -/
def scansEverySeason (intent : Intent) : Bool :=
  intent.strategy == .eventLevel && intent.season.isNone

end Scorebook.Intent
