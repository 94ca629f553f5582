import Scorebook.Text.Search

/-!
# Statistics counted over pitches

The statistics that are added up from single pitches, as data: tests on a pitch, tallies of the
pitches that pass one, ratios of sums of tallies. What a statistic is called and how it is written
in SQL follows from that data.
-/

namespace Scorebook

/-- The outcome that a pitch led to, as the data names it. -/
abbrev Outcome := String

/-- Texts in single quotes, with commas between them. -/
def quotedList (texts : List String) : String :=
  Text.joinWith ", " (texts.map fun text => "'" ++ text ++ "'")

/-- A test on a pitch. -/
inductive PitchTest where
  /-- The outcome is one of a list. -/
  | outcomeIn (outcomes : List Outcome)
  /-- The outcome is none of a list. -/
  | outcomeNotIn (outcomes : List Outcome)
  /-- The outcome is this one. -/
  | outcomeIs (outcome : Outcome)
  /-- The speed of the ball off the bat was measured. -/
  | measured
  /-- The ball left the bat at this speed or above. -/
  | fasterThan (speed : Nat)
  /-- The ball left the bat at this speed or above, and at an angle between two bounds. -/
  | barrelled (speed low high : Nat)
  /-- The description of the pitch is one of a list. -/
  | describedAs (descriptions : List String)
  deriving DecidableEq, Repr

/-- A test in SQL. -/
def PitchTest.sql : PitchTest → String
  | .outcomeIn outcomes => "events IN (" ++ quotedList outcomes ++ ")"
  | .outcomeNotIn outcomes => "events NOT IN (" ++ quotedList outcomes ++ ")"
  | .outcomeIs outcome => "events = '" ++ outcome ++ "'"
  | .measured => "launch_speed IS NOT NULL"
  | .fasterThan speed => "launch_speed >= " ++ speed.repr
  | .barrelled speed low high =>
    "launch_speed >= " ++ speed.repr ++ " AND launch_angle BETWEEN " ++ low.repr ++ " AND "
      ++ high.repr
  | .describedAs descriptions => "description IN (" ++ quotedList descriptions ++ ")"

/-- A number counted over pitches. -/
inductive Tally where
  /-- All pitches. -/
  | all
  /-- The pitches that pass a test. -/
  | passing (test : PitchTest)
  /-- The sum of a weight that each outcome has; outcomes that are not listed weigh nothing. -/
  | weighing (weights : List (Outcome × Nat))
  deriving DecidableEq, Repr

/-- A tally in SQL. -/
def Tally.sql : Tally → String
  | .all => "COUNT(*)"
  | .passing test => "SUM(CASE WHEN " ++ test.sql ++ " THEN 1 ELSE 0 END)"
  | .weighing weights =>
    "SUM(CASE events "
      ++ Text.joinWith " " (weights.map fun (outcome, weight) =>
        "WHEN '" ++ outcome ++ "' THEN " ++ weight.repr)
      ++ " ELSE 0 END)"

/-- A sum of tallies over a sum of tallies. -/
structure Ratio where
  /-- The terms above the line. -/
  above : List Tally
  /-- The terms below the line. -/
  below : List Tally
  deriving DecidableEq, Repr

/-- Tallies added up in SQL. -/
def Tally.sumSql (terms : List Tally) : String := Text.joinWith " + " (terms.map Tally.sql)

/-- A ratio in SQL, rounded to three places; it is missing where nothing stands below the line. -/
def Ratio.sql (ratio : Ratio) : String :=
  "ROUND(CAST(" ++ Tally.sumSql ratio.above ++ " AS DOUBLE) / NULLIF("
    ++ Tally.sumSql ratio.below ++ ", 0), 3)"

/-- A statistic over pitches. -/
inductive Statistic where
  /-- A number counted. -/
  | count (tally : Tally)
  /-- A ratio of numbers counted. -/
  | rate (ratio : Ratio)
  /-- Two ratios added up, a missing one counting as zero. -/
  | sumOfRates (first second : Ratio)
  deriving DecidableEq, Repr

namespace Statistic

/-- A statistic in SQL. -/
def sql : Statistic → String
  | .count tally => tally.sql
  | .rate ratio => ratio.sql
  | .sumOfRates first second =>
    "ROUND(COALESCE(" ++ first.sql ++ ", 0) + COALESCE(" ++ second.sql ++ ", 0), 3)"

/-- Whether a statistic is a ratio or a sum of ratios, and so has decimals. -/
def isRate : Statistic → Bool
  | .count _ => false
  | _ => true

end Statistic

namespace Tally

/-- The times at bat: appearances that do not end in a walk, a hit by a pitch, a sacrifice or an
interference. -/
def atBats : Tally :=
  .passing (.outcomeNotIn ["walk", "intent_walk", "hit_by_pitch", "sac_fly", "sac_bunt",
    "sac_fly_double_play", "catcher_interf"])

/-- The hits. -/
def hits : Tally := .passing (.outcomeIn ["single", "double", "triple", "home_run"])

/-- The walks. -/
def walks : Tally := .passing (.outcomeIn ["walk", "intent_walk"])

/-- The batters hit by a pitch. -/
def hitByPitch : Tally := .passing (.outcomeIs "hit_by_pitch")

/-- The sacrifice flies. -/
def sacrificeFlies : Tally := .passing (.outcomeIn ["sac_fly", "sac_fly_double_play"])

/-- The bases that the hits were worth. -/
def totalBases : Tally :=
  .weighing [("single", 1), ("double", 2), ("triple", 3), ("home_run", 4)]

/-- The balls in play whose speed was measured. -/
def battedBalls : Tally := .passing .measured

/-- The balls hit hard. -/
def hardHits : Tally := .passing (.fasterThan 95)

/-- The balls hit hard at the best angle. -/
def barrels : Tally := .passing (.barrelled 98 26 30)

/-- The swings that missed. -/
def misses : Tally := .passing (.describedAs ["swinging_strike", "swinging_strike_blocked"])

end Tally

namespace Ratio

/-- Hits by times at bat. -/
def battingAverage : Ratio := ⟨[Tally.hits], [Tally.atBats]⟩

/-- How often the batter reaches base. -/
def onBase : Ratio :=
  ⟨[Tally.hits, Tally.walks, Tally.hitByPitch],
   [Tally.atBats, Tally.walks, Tally.hitByPitch, Tally.sacrificeFlies]⟩

/-- Bases by times at bat. -/
def slugging : Ratio := ⟨[Tally.totalBases], [Tally.atBats]⟩

end Ratio

/-- The statistics over pitches with their names, in the order in which they are shown. -/
def pitchStatistics : List (String × Statistic) :=
  [("plate_appearances", .count .all),
   ("at_bats", .count Tally.atBats),
   ("hits", .count Tally.hits),
   ("singles", .count (.passing (.outcomeIn ["single"]))),
   ("doubles", .count (.passing (.outcomeIn ["double"]))),
   ("triples", .count (.passing (.outcomeIn ["triple"]))),
   ("home_runs", .count (.passing (.outcomeIn ["home_run"]))),
   ("extra_base_hits", .count (.passing (.outcomeIn ["double", "triple", "home_run"]))),
   ("walks", .count Tally.walks),
   ("strikeouts", .count (.passing (.outcomeIn ["strikeout", "strikeout_double_play"]))),
   ("batting_average", .rate Ratio.battingAverage),
   ("on_base_percentage", .rate Ratio.onBase),
   ("slugging_percentage", .rate Ratio.slugging),
   ("ops", .sumOfRates Ratio.onBase Ratio.slugging),
   ("hard_hit_rate", .rate ⟨[Tally.hardHits], [Tally.battedBalls]⟩),
   ("barrel_rate", .rate ⟨[Tally.barrels], [Tally.battedBalls]⟩),
   ("swinging_strike_rate", .rate ⟨[Tally.misses], [.all]⟩)]

end Scorebook
