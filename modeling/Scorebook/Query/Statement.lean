import Scorebook.Query.Slot
import Scorebook.Query.Tally

/-!
# Statements

A query before it becomes text: what is shown, from where, under which conditions, grouped and
sorted how, and which values are bound. Expressions and conditions hold names of columns and
placeholders but no value of an intent, so the text of a statement does not depend on the values.
-/

namespace Scorebook

/-- An expression over the columns of a table. -/
inductive Expr where
  /-- A column, or an output by its name. -/
  | column (name : String)
  /-- The sum of a column over the rows of a group. -/
  | total (column : String)
  /-- The mean of a column over the rows of a group. -/
  | mean (column : String)
  /-- The mean of a column over the rows of a group, each weighed by another column. -/
  | weightedMean (column weight : String)
  /-- The month of a date. -/
  | monthOf (date : String)
  /-- A statistic over the pitches of a group. -/
  | statistic (statistic : Statistic)
  deriving DecidableEq, Repr

/-- An expression in SQL. -/
def Expr.sql : Expr → String
  | .column name => name
  | .total col => "SUM(" ++ col ++ ")"
  | .mean col => "AVG(" ++ col ++ ")"
  | .weightedMean col weight =>
    "SUM(" ++ col ++ " * " ++ weight ++ ") / NULLIF(SUM(" ++ weight ++ "), 0)"
  | .monthOf date => "EXTRACT(MONTH FROM " ++ date ++ ")"
  | .statistic s => s.sql

/-- A situation of the runners on base. -/
inductive Runners where
  /-- A runner on second or third base. -/
  | scoringPosition
  /-- A runner on every base. -/
  | everyBase
  /-- A runner on first base only. -/
  | firstOnly
  deriving DecidableEq, Repr

/-- The situation of the runners that a split asks for by itself. -/
def Split.runners? : Split → Option Runners
  | .risp => some .scoringPosition
  | .basesLoaded => some .everyBase
  | .runnerOnFirst => some .firstOnly
  | _ => none

/-- A situation of the runners in SQL. -/
def Runners.sql : Runners → String
  | .scoringPosition => "(on_2b IS NOT NULL OR on_3b IS NOT NULL)"
  | .everyBase => "(on_1b IS NOT NULL AND on_2b IS NOT NULL AND on_3b IS NOT NULL)"
  | .firstOnly => "(on_1b IS NOT NULL AND on_2b IS NULL AND on_3b IS NULL)"

/-- A bucket of the score in SQL. -/
def ScoreBucket.sql : ScoreBucket → String
  | .tied => "bat_score = fld_score"
  | .leading => "bat_score > fld_score"
  | .trailing => "bat_score < fld_score"
  | .leadingBy1 => "bat_score - fld_score = 1"
  | .leadingBy2 => "bat_score - fld_score = 2"
  | .leadingBy3Plus => "bat_score - fld_score >= 3"
  | .trailingBy1 => "fld_score - bat_score = 1"
  | .trailingBy2 => "fld_score - bat_score = 2"
  | .trailingBy3Plus => "fld_score - bat_score >= 3"
  | .within1 => "ABS(bat_score - fld_score) <= 1"
  | .within2 => "ABS(bat_score - fld_score) <= 2"
  | .lateAndClose => "(inning >= 7 AND ABS(bat_score - fld_score) <= 1)"
  | .blowout => "ABS(bat_score - fld_score) >= 5"

/-- A condition on the rows. -/
inductive Condition where
  /-- The game belongs to the regular season. -/
  | regularSeason
  /-- The pitch ended a plate appearance. -/
  | endsAppearance
  /-- A column meets the value of a placeholder. -/
  | meets (slot : Slot) (column : String)
  /-- The runners are in a situation. -/
  | runners (situation : Runners)
  /-- The score is in a bucket. -/
  | score (bucket : ScoreBucket)
  deriving DecidableEq, Repr

/-- A condition in SQL. -/
def Condition.sql : Condition → String
  | .regularSeason => "game_type = 'R'"
  | .endsAppearance => "events IS NOT NULL"
  | .meets slot column => slot.condition column
  | .runners situation => situation.sql
  | .score bucket => bucket.sql

/-- An expression that is shown, under a name. -/
structure Output where
  /-- What is shown. -/
  expr : Expr
  /-- The name of the column in the result. -/
  name : String
  deriving DecidableEq, Repr

namespace Output

/-- A column shown under its own name. -/
def plain (column : String) : Output := ⟨.column column, column⟩

/-- An output in SQL; a name that repeats the expression is not written. -/
def sql (output : Output) : String :=
  if output.name = output.expr.sql then "  " ++ output.expr.sql
  else "  " ++ output.expr.sql ++ " AS " ++ output.name

/-- Outputs with one more, unless its expression is shown already. -/
def add (outputs : List Output) (output : Output) : List Output :=
  if outputs.any fun shown => shown.expr.sql == output.expr.sql then outputs
  else outputs ++ [output]

/-- Outputs with others added one after another. -/
def addAll (outputs others : List Output) : List Output := others.foldl add outputs

end Output

/-- What the rows are sorted by. -/
structure SortKey where
  /-- The expression. -/
  expr : Expr
  /-- Whether greater values come first. -/
  descending : Bool
  deriving DecidableEq, Repr

/-- A sort key in SQL. -/
def SortKey.sql (key : SortKey) : String :=
  key.expr.sql ++ (if key.descending then " DESC" else " ASC")

/-- A query before it becomes text. -/
structure Statement where
  /-- What is shown. -/
  outputs : List Output
  /-- The table that the rows come from. -/
  source : String
  /-- The conditions, all of which hold. -/
  conditions : List Condition
  /-- The expressions that the rows are grouped by; none for no grouping. -/
  grouping : List Expr
  /-- What the rows are sorted by, if by anything. -/
  order : Option SortKey
  /-- The values that are bound. -/
  values : List (Slot × Param)
  deriving DecidableEq, Repr

namespace Statement

/-- A clause with its items, or nothing if there are none. -/
def clause (opening between : String) (items : List String) : String :=
  if items.isEmpty then "" else opening ++ Text.joinWith between items

/-- A statement in SQL. -/
def sql (s : Statement) : String :=
  "SELECT\n" ++ Text.joinWith ",\n" (s.outputs.map Output.sql) ++ "\nFROM " ++ s.source
    ++ clause "\nWHERE " "\n  AND " (s.conditions.map Condition.sql)
    ++ clause "\nGROUP BY " ", " (s.grouping.map Expr.sql)
    ++ clause "\nORDER BY " "" (s.order.toList.map SortKey.sql)
    ++ "\nLIMIT " ++ Slot.limit.mark

/-- The query of a statement: its text and its values by name. -/
def query (s : Statement) : Query :=
  ⟨s.sql, Dict.ofList (s.values.map fun (slot, value) => (Vocabulary.name slot, value))⟩

end Statement

/-- Why an intent has no statement. -/
inductive Obstacle where
  /-- The intent lacks a query type, metrics, or the split that its query type needs. -/
  | incomplete
  /-- No table answers the context. -/
  | noTable (context : String)
  /-- None of the metrics adds a column in the context. -/
  | noMetric (context : String)
  /-- The table of the context has no column for a field of the intent. -/
  | noColumn (context : String) (field : IntentField)
  /-- There is no table of single pitches. -/
  | noMaster
  deriving DecidableEq, Repr

/-- Whether an intent asks for months. -/
def Intent.isMonthly (intent : Intent) : Bool := intent.split == some .monthly

/-- The values of an intent for some placeholders, as far as it has them. -/
def Intent.valuesFor (intent : Intent) (binding : Binding) (slots : List Slot) :
    List (Slot × Param) :=
  slots.filterMap fun slot => (intent.value? binding slot).map (slot, ·)

end Scorebook
