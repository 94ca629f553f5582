import Scorebook.Catalogue.Basic
import Scorebook.Query.Statement

/-!
# Statements over tables of statistics

An intent is answered from the table of its context, or not at all: if the table has no column for a
requested condition, or for none of the metrics, there is no statement. Where several types of
pitches are asked for and the table has a row for each, their rows are collapsed: counts are added
up and rates averaged.
-/

namespace Scorebook

namespace Table

/-- The column that a placeholder is compared with. -/
def column? (table : Table) : Slot → Option String
  | .playerName => some table.nameCol
  | .season => table.yearCol
  | .innings => table.filters.inning
  | .pitcherThrows => table.filters.pitcherThrows
  | .pitchTypes => table.filters.pitchType
  | .strikes => table.filters.strikes
  | .balls => table.filters.balls
  | .gameScore => table.filters.gameScore
  | .limit => none

/-- The placeholders that conditions may need, in the order in which they are written. -/
def conditionSlots : List Slot :=
  [.playerName, .season, .innings, .pitcherThrows, .pitchTypes, .strikes, .balls, .gameScore]

/-- Whether the rows of several types of pitches become one. -/
def collapses (table : Table) (intent : Intent) : Bool :=
  decide (1 < intent.pitchTypes.length) && table.filters.pitchType.isSome

/-- The output for the period of a row: the month if months are asked for, else the season. -/
def period (table : Table) (monthly : Bool) : Option Output :=
  match if monthly then table.monthCol else none with
  | some month => some ⟨.column month, "month"⟩
  | none => table.yearCol.map fun year => ⟨.column year, "season"⟩

/-- The outputs that tell the rows apart. -/
def identity (table : Table) (monthly : Bool) : List Output :=
  ⟨.column table.nameCol, "name"⟩ :: (table.period monthly).toList
    ++ (table.teamCol.map fun team => (⟨.column team, "team"⟩ : Output)).toList
    ++ table.identityCols.map Output.plain

/-- How the rows are sorted if the intent does not say: months forwards, else seasons backwards. -/
def defaultOrder (table : Table) (monthly : Bool) : Option SortKey :=
  match if monthly then table.monthCol else none with
  | some month => some ⟨.column month, false⟩
  | none => table.yearCol.map fun year => ⟨.column year, true⟩

end Table

namespace Catalogue

/-- A column of a metric over collapsed rows: counts are added up, rates averaged, with the weights
of the table if it has any. -/
def collapsed (c : Catalogue) (table : Table) (metric column : String) : Expr :=
  if c.isRate metric then
    match table.weightCol with
    | some weight => .weightedMean column weight
    | none => .mean column
  else .total column

/-- A column of a metric as it is shown. -/
def metricExpr (c : Catalogue) (table : Table) (collapse : Bool) (metric column : String) : Expr :=
  if collapse then c.collapsed table metric column else .column column

/-- The outputs of the metrics that an intent asks for. -/
def metricOutputs (c : Catalogue) (table : Table) (context : String) (collapse : Bool)
    (metrics : List String) : List Output :=
  (c.expandMetrics metrics context).flatMap fun metric =>
    (c.resolve metric context).map fun column =>
      ⟨c.metricExpr table collapse metric column, column⟩

/-- The sort key of a metric: its first column, the greatest value first unless less is better. -/
def metricOrder (c : Catalogue) (table : Table) (context : String) (collapse : Bool)
    (metric : String) : Option SortKey :=
  (c.resolve metric context).head?.map fun column =>
    ⟨c.metricExpr table collapse metric column, !c.isLowerBetter metric⟩

/-- The conventions of the tables of statistics: a hand is written by its name. -/
def tableBinding (defaultLimit : UInt32) : Binding := ⟨Vocabulary.name, defaultLimit⟩

/-- The conditions for the placeholders that have values; each needs its column. -/
def tableConditions (table : Table) (context : String) (values : List (Slot × Param)) :
    Except Obstacle (List Condition) :=
  values.mapM fun (slot, _) =>
    match table.column? slot with
    | some column => .ok (.meets slot column)
    | none => .error (.noColumn context slot.field)

/-- The statement over the table of the context of an intent. -/
def aggregated (c : Catalogue) (defaultLimit : UInt32) (intent : Intent) :
    Except Obstacle Statement :=
  match intent.metrics, intent.contextKey with
  | some metrics, some context =>
    match c.table? context with
    | none => .error (.noTable context)
    | some table =>
      let collapse := table.collapses intent
      let identity := Output.addAll [] (table.identity intent.isMonthly)
      let outputs := Output.addAll identity (c.metricOutputs table context collapse metrics)
      if outputs.length = identity.length then .error (.noMetric context)
      else
        let binding := tableBinding defaultLimit
        let values := intent.valuesFor binding Table.conditionSlots
        (tableConditions table context values).map fun conditions =>
          { outputs
            source := table.source
            conditions
            grouping := if collapse then identity.map Output.expr else []
            order := (intent.orderBy.bind (c.metricOrder table context collapse)).or
              (table.defaultOrder intent.isMonthly)
            values := values ++ intent.valuesFor binding [.limit] }
  | _, _ => .error .incomplete

end Catalogue

end Scorebook
