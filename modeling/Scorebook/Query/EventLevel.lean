import Scorebook.Catalogue.Basic
import Scorebook.Query.Statement

/-!
# Statements over single pitches

Where several conditions are combined, the statistics are added up from the single pitches of the
master table: by player, by season if one is given, and by month if months are asked for. Without a
season all seasons are added up together.
-/

namespace Scorebook

namespace MasterTable

/-- The column of the player that an intent is about: the pitcher or the batter. -/
def subjectCol (master : MasterTable) (queryType : QueryType) : String :=
  if queryType.isPitching then master.pitcherCol else master.batterCol

/-- The column that a placeholder is compared with. -/
def column (master : MasterTable) (queryType : QueryType) : Slot → Option String
  | .playerName => some (master.subjectCol queryType)
  | .season => some master.seasonCol
  | .innings => some "inning"
  | .strikes => some "strikes"
  | .balls => some "balls"
  | .pitcherThrows => some "p_throws"
  | .pitchTypes => some "pitch_name"
  | .gameScore | .limit => none

/-- The placeholders that conditions may need, in the order in which they are written. The score is
compared without one. -/
def conditionSlots : List Slot :=
  [.playerName, .season, .innings, .strikes, .balls, .pitcherThrows, .pitchTypes]

/-- The outputs that tell the groups apart. -/
def identity (master : MasterTable) (queryType : QueryType) (intent : Intent) : List Output :=
  ⟨.column (master.subjectCol queryType), "name"⟩
    :: (if intent.season.isSome then [⟨.column master.seasonCol, "season"⟩] else [])
    ++ (if intent.isMonthly then [⟨.monthOf master.dateCol, "month"⟩] else [])

/-- The conditions on the pitches. -/
def conditions (master : MasterTable) (queryType : QueryType) (intent : Intent)
    (values : List (Slot × Param)) : List Condition :=
  [.regularSeason, .endsAppearance]
    ++ values.filterMap (fun (slot, _) => (master.column queryType slot).map (.meets slot))
    ++ ((intent.split.bind Split.runners?).map Condition.runners).toList
    ++ (intent.score.map Condition.score).toList

/-- How the groups are sorted if the intent does not say: months forwards, else by the number of
plate appearances. -/
def defaultOrder (monthly : Bool) : SortKey :=
  if monthly then ⟨.column "month", false⟩ else ⟨.column "plate_appearances", true⟩

end MasterTable

namespace Catalogue

/-- The conventions of the single pitches: a hand is written by its letter. -/
def pitchBinding (defaultLimit : UInt32) : Binding := ⟨Hand.code, defaultLimit⟩

/-- The sort key of a metric among the outputs: the greatest value first unless less is better. -/
def pitchOrder (c : Catalogue) (master : MasterTable) (metric : String) : Option SortKey :=
  (master.columns.get? metric).map fun name => ⟨.column name, !c.isLowerBetter metric⟩

/-- The outputs of the statistics over pitches. -/
def pitchOutputs : List Output :=
  pitchStatistics.map fun (name, statistic) => ⟨.statistic statistic, name⟩

/-- The statement over the single pitches. -/
def eventLevel (c : Catalogue) (defaultLimit : UInt32) (intent : Intent) :
    Except Obstacle Statement :=
  match intent.queryType, c.master with
  | none, _ => .error .incomplete
  | some _, none => .error .noMaster
  | some queryType, some master =>
    let binding := pitchBinding defaultLimit
    let values := intent.valuesFor binding MasterTable.conditionSlots
    let identity := master.identity queryType intent
    .ok
      { outputs := Output.addAll [] (identity ++ pitchOutputs)
        source := master.source
        conditions := master.conditions queryType intent values
        grouping := identity.map Output.expr
        order := (intent.orderBy.bind (c.pitchOrder master)).or
          (some (MasterTable.defaultOrder intent.isMonthly))
        values := values ++ intent.valuesFor binding [.limit] }

end Catalogue

end Scorebook
