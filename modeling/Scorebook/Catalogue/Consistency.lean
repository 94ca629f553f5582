import Scorebook.Catalogue.Basic

/-!
# Consistency of a catalogue

Every context has default metrics, each of them has a column in the context's table, and the lists
of metrics name only metrics that some table knows. The first violation is reported: contexts in
ascending order, the defaults of a context in their own order, then the two lists.
-/

namespace Scorebook

/-- A list of metrics in a catalogue. -/
inductive MetricList where
  /-- The metrics of which less is better. -/
  | lowerIsBetter
  /-- The metrics that are rates. -/
  | decimalMetrics
  deriving DecidableEq, Repr

/-- The name of a list of metrics. -/
def MetricList.name : MetricList → String
  | .lowerIsBetter => "lower_is_better"
  | .decimalMetrics => "decimal_metrics"

/-- What is wrong with a catalogue. -/
inductive Inconsistency where
  /-- A context has no default metrics. -/
  | missingMainStats (context : String)
  /-- A default metric has no column in its context. -/
  | unresolvedDefault (context metric : String)
  /-- A list names a metric that no table knows. -/
  | unknownMetric (list : MetricList) (metric : String)
  deriving DecidableEq, Repr

/-- What is wrong, in words. -/
def Inconsistency.message : Inconsistency → String
  | .missingMainStats context => "Context " ++ context ++ " has no main_stats defaults"
  | .unresolvedDefault context metric =>
    "Context " ++ context ++ ": default metric " ++ metric ++ " has no column"
  | .unknownMetric list metric => "Unknown metric in " ++ list.name ++ ": " ++ metric

namespace Catalogue

/-- What is wrong with the defaults of a context. -/
def tableViolation? (c : Catalogue) (context : String) (table : Table) : Option Inconsistency :=
  if table.mainStats.isEmpty then some (.missingMainStats context)
  else (table.mainStats.find? fun metric => (c.resolve metric context).isEmpty).map
    (.unresolvedDefault context)

/-- What is wrong with a list of metrics. -/
def listViolation? (c : Catalogue) (list : MetricList) (metrics : KeySet) : Option Inconsistency :=
  (metrics.keys.find? fun metric => !c.knowsMetric metric).map (.unknownMetric list)

/-- The first thing that is wrong with a catalogue. -/
def violation? (c : Catalogue) : Option Inconsistency :=
  (c.tables.entries.findSome? fun entry => c.tableViolation? entry.1 entry.2)
    <|> c.listViolation? .lowerIsBetter c.lowerIsBetter
    <|> c.listViolation? .decimalMetrics c.decimalMetrics

end Catalogue

end Scorebook
