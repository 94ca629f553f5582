import Scorebook.Dict
import Scorebook.Intent.Basic

/-!
# The catalogue of statistics

Which table answers a context, and which of its columns holds which statistic. A context is the key
of an intent; a metric is the key of a statistic. Statistics of a career have up to three columns,
one for the whole career and one for each of two situations. Combined situations are answered from
the single pitches of one master table.
-/

namespace Scorebook

/-- The columns of a statistic of a career, each of them optional. -/
structure CareerColumns where
  /-- The column for the whole career. -/
  career : Option String := none
  /-- The column for runners in scoring position. -/
  risp : Option String := none
  /-- The column for loaded bases. -/
  basesLoaded : Option String := none
  deriving DecidableEq, Repr

/-- Where a table holds a metric. -/
inductive Descriptor where
  /-- In a single column. -/
  | direct (column : String)
  /-- In the columns of a career. -/
  | career (columns : CareerColumns)
  deriving DecidableEq, Repr

/-- The columns of a metric in the order in which they are shown. -/
def Descriptor.columns : Descriptor → List String
  | .direct column => [column]
  | .career c => [c.career, c.risp, c.basesLoaded].filterMap id

/-- The columns that a table offers for situational conditions. -/
structure FilterColumns where
  /-- The inning. -/
  inning : Option String := none
  /-- The number of strikes. -/
  strikes : Option String := none
  /-- The number of balls. -/
  balls : Option String := none
  /-- The hand of the pitcher. -/
  pitcherThrows : Option String := none
  /-- The type of pitch. -/
  pitchType : Option String := none
  /-- The bucket of the score. -/
  gameScore : Option String := none
  deriving DecidableEq, Repr

/-- A table of statistics computed beforehand. -/
structure Table where
  /-- The name of the table. -/
  source : String
  /-- The column of the player's name. -/
  nameCol : String
  /-- The column of the season. -/
  yearCol : Option String := none
  /-- The column of the month. -/
  monthCol : Option String := none
  /-- The column of the team. -/
  teamCol : Option String := none
  /-- The column that weighs a row when rates of several rows are averaged. -/
  weightCol : Option String := none
  /-- Columns that tell the rows of a player apart and are always shown. -/
  identityCols : List String := []
  /-- The columns for situational conditions. -/
  filters : FilterColumns := {}
  /-- The metrics shown when none is named. -/
  mainStats : List String := []
  /-- The metrics of the table. -/
  metrics : Dict Descriptor := ∅
  deriving DecidableEq, Repr

/-- The table of single pitches. -/
structure MasterTable where
  /-- The name of the table. -/
  source : String
  /-- The column of the batter's name. -/
  batterCol : String
  /-- The column of the pitcher's name. -/
  pitcherCol : String
  /-- The column of the season. -/
  seasonCol : String
  /-- The column of the date. -/
  dateCol : String
  /-- The metrics that rows may be sorted by, with the names of their aggregates. -/
  columns : Dict String := ∅
  deriving DecidableEq, Repr

/-- A catalogue of statistics. -/
structure Catalogue where
  /-- The version of the catalogue. -/
  version : String
  /-- The tables by context. -/
  tables : Dict Table
  /-- The table of single pitches, if there is one. -/
  master : Option MasterTable := none
  /-- The metrics of which less is better. -/
  lowerIsBetter : KeySet := ∅
  /-- The metrics that are rates, with decimal values. -/
  decimalMetrics : KeySet := ∅
  /-- The labels of columns. -/
  labels : Dict String := ∅
  deriving DecidableEq, Repr

namespace Catalogue

/-- The table that answers a context. -/
def table? (c : Catalogue) (context : String) : Option Table := c.tables.get? context

/-- Whether any table, or the master table, knows a metric. -/
def knowsMetric (c : Catalogue) (metric : String) : Bool :=
  c.tables.values.any (fun t => t.metrics.contains metric)
    || c.master.any fun m => m.columns.contains metric

/-- Where the table of a context holds a metric. -/
def descriptor? (c : Catalogue) (metric context : String) : Option Descriptor :=
  (c.table? context).bind fun t => t.metrics.get? metric

/-- The columns of a metric in a context; none where it does not apply. -/
def resolve (c : Catalogue) (metric context : String) : List String :=
  ((c.descriptor? metric context).map Descriptor.columns).getD []

/-- The metrics that a list asks for: the defaults of the context if it is the single word for them,
the list itself otherwise. -/
def expandMetrics (c : Catalogue) (metrics : List String) (context : String) : List String :=
  if metrics = [Scorebook.mainStats] then ((c.table? context).map Table.mainStats).getD []
  else metrics

/-- Whether less of a metric is better. -/
def isLowerBetter (c : Catalogue) (metric : String) : Bool := c.lowerIsBetter.contains metric

/-- Whether a metric is a rate, which is averaged and never added up. -/
def isRate (c : Catalogue) (metric : String) : Bool := c.decimalMetrics.contains metric

/-- The output columns of a rate: its columns in every table, and its aggregate. -/
def columnsOfRate (c : Catalogue) (metric : String) : List String :=
  c.tables.values.flatMap (fun t => ((t.metrics.get? metric).map Descriptor.columns).getD [])
    ++ (c.master.bind fun m => m.columns.get? metric).toList

/-- The output columns with decimal values. -/
def decimalColumns (c : Catalogue) : KeySet :=
  KeySet.of (c.decimalMetrics.keys.flatMap c.columnsOfRate)

end Catalogue

end Scorebook
