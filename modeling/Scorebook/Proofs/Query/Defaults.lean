import Scorebook.Proofs.Catalogue.Consistency
import Scorebook.Proofs.Query.Grouping

/-!
# When the defaults of a context are shown

A table adds a metric exactly if one of its columns is not among those that tell the rows apart,
since a column that is shown already is not shown again. A consistent catalogue has a column for
each default of a context. So the defaults of a context are answered, unless all of their columns
are shown anyway.
-/

namespace Scorebook

/-- An intent asks for the defaults of a context, with no condition but perhaps the player. -/
structure Intent.AsksDefaults (intent : Intent) (context : String) : Prop where
  /-- The defaults are asked for. -/
  metrics : intent.metrics = some [mainStats]
  /-- The context is that of the intent. -/
  contextKey : intent.contextKey = some context
  /-- Any season will do. -/
  season : intent.season = none
  /-- Any inning will do. -/
  innings : intent.innings = []
  /-- Any number of strikes will do. -/
  strikes : intent.strikes = none
  /-- Any number of balls will do. -/
  balls : intent.balls = none
  /-- Any hand of the pitcher will do. -/
  pitcherHand : intent.pitcherHand = none
  /-- Any type of pitch will do. -/
  pitchTypes : intent.pitchTypes = []
  /-- Any score will do. -/
  score : intent.score = none

namespace Catalogue

variable {c : Catalogue} {intent : Intent} {metrics : List String} {context : String}
  {table : Table} {defaultLimit : UInt32}

/-- A table adds a metric exactly if one of its expressions is not among the columns that tell the
rows apart. -/
theorem addsMetric_iff :
    c.AddsMetric intent metrics context table ↔
      ∃ metric ∈ c.expandMetrics metrics context, ∃ column ∈ c.resolve metric context,
        (c.metricExpr table (table.collapses intent) metric column).sql ∉
          table.keyColumns intent.isMonthly := by
  have htexts (text : String) :
      text ∈ Output.texts (Output.addAll [] (table.identity intent.isMonthly)) ↔
        text ∈ table.keyColumns intent.isMonthly := by
    rw [Output.texts_addAll_nil, List.mem_eraseDups, Table.texts_identity]
  rw [AddsMetric, ne_eq, Output.length_addAll_eq_iff]
  simp only [htexts, metricOutputs, List.mem_flatMap, List.mem_map, forall_exists_index, and_imp,
    not_forall, exists_prop]
  constructor
  · rintro ⟨_, metric, hmetric, column, hcolumn, rfl, hnew⟩
    exact ⟨metric, hmetric, column, hcolumn, hnew⟩
  · rintro ⟨metric, hmetric, column, hcolumn, hnew⟩
    exact ⟨_, metric, hmetric, column, hcolumn, rfl, hnew⟩

/-- Without a metric to add there is no statement, for that reason. -/
theorem aggregated_of_not_addsMetric (hmetrics : intent.metrics = some metrics)
    (hcontext : intent.contextKey = some context) (ht : c.table? context = some table)
    (h : ¬ c.AddsMetric intent metrics context table) :
    c.aggregated defaultLimit intent = .error (.noMetric context) := by
  have hlength := not_not.1 h
  simp only [aggregated, hmetrics, hcontext, ht, if_pos hlength]

end Catalogue

namespace Intent.AsksDefaults

variable {c : Catalogue} {intent : Intent} {context : String} {table : Table}

/-- The metrics are the defaults of the context. -/
theorem expandMetrics_eq (ht : c.table? context = some table) :
    c.expandMetrics [mainStats] context = table.mainStats := by
  rw [Catalogue.expandMetrics, if_pos rfl, ht]
  rfl

/-- Rows are shown as they are. -/
theorem collapses_eq (h : intent.AsksDefaults context) : table.collapses intent = false := by
  simp [Table.collapses, h.pitchTypes]

/-- The table has the column of each condition. -/
theorem column?_isSome (h : intent.AsksDefaults context) {binding : Binding} :
    ∀ value ∈ intent.valuesFor binding Table.conditionSlots, (table.column? value.1).isSome := by
  rintro ⟨slot, param⟩ hv
  obtain ⟨hslot, hvalue⟩ := mem_valuesFor.1 hv
  cases slot with
  | playerName => rfl
  | limit => exact absurd hslot (by decide)
  | _ =>
    simp [value?, h.season, h.innings, h.strikes, h.balls, h.pitcherHand, h.pitchTypes,
      h.score] at hvalue

end Intent.AsksDefaults

namespace Catalogue

variable {c : Catalogue} {intent : Intent} {context : String} {table : Table}

/-- The table adds a default exactly if one of its columns is not shown anyway. -/
theorem addsMetric_defaults_iff (hasks : intent.AsksDefaults context)
    (ht : c.table? context = some table) :
    c.AddsMetric intent [mainStats] context table ↔
      ∃ metric ∈ table.mainStats, ∃ column ∈ c.resolve metric context,
        column ∉ table.keyColumns intent.isMonthly := by
  rw [addsMetric_iff, Intent.AsksDefaults.expandMetrics_eq ht, hasks.collapses_eq]
  rfl

/-- In a consistent catalogue the defaults of a context are answered exactly if one of their columns
is not among those that tell the rows apart. Otherwise each default has a column, all of them are
shown anyway, and there is no statement for want of a metric. -/
theorem aggregated_defaults_iff (c : Catalogue) (defaultLimit : UInt32) (intent : Intent)
    (context : String) (table : Table) (h : c.violation? = none)
    (hasks : intent.AsksDefaults context) (ht : c.table? context = some table) :
    ((∃ s, c.aggregated defaultLimit intent = .ok s) ↔
        ∃ metric ∈ table.mainStats, ∃ column ∈ c.resolve metric context,
          column ∉ table.keyColumns intent.isMonthly) ∧
      (c.aggregated defaultLimit intent = .error (.noMetric context) ↔
        ∀ metric ∈ table.mainStats, c.resolve metric context ≠ [] ∧
          ∀ column ∈ c.resolve metric context, column ∈ table.keyColumns intent.isMonthly) := by
  have hresolve := (violation?_eq_none_iff.1 h).defaults_resolve context table ht
  have hadds := addsMetric_defaults_iff hasks ht
  by_cases hnew : ∃ metric ∈ table.mainStats, ∃ column ∈ c.resolve metric context,
      column ∉ table.keyColumns intent.isMonthly
  · have hok : c.aggregated defaultLimit intent = .ok _ := aggregated_eq_ok_iff.2
      ⟨_, context, table, hasks.metrics, hasks.contextKey, ht, hadds.2 hnew,
        hasks.column?_isSome, rfl⟩
    refine ⟨⟨fun _ => hnew, fun _ => ⟨_, hok⟩⟩, fun herror => ?_, fun hall => ?_⟩
    · rw [hok] at herror
      cases herror
    · obtain ⟨metric, hmetric, column, hcolumn, hkey⟩ := hnew
      exact absurd ((hall metric hmetric).2 column hcolumn) hkey
  · have herror : c.aggregated defaultLimit intent = .error (.noMetric context) :=
      aggregated_of_not_addsMetric hasks.metrics hasks.contextKey ht (hnew ∘ hadds.1)
    refine ⟨⟨fun ⟨s, hs⟩ => ?_, fun hsome => absurd hsome hnew⟩, fun _ metric hmetric => ?_,
      fun _ => herror⟩
    · rw [herror] at hs
      cases hs
    · refine ⟨hresolve metric hmetric, fun column hcolumn => ?_⟩
      by_contra hkey
      exact hnew ⟨metric, hmetric, column, hcolumn, hkey⟩

end Catalogue

/-- The usual statistics of a player's seasons, the most home runs first. -/
def Intent.usualStats : Intent where
  queryType := some .seasonBatting
  metrics := some [mainStats]
  subjectName := some "Judge"
  orderBy := some "homerun"

/-- An intent for the usual statistics of seasons asks for the defaults. -/
theorem Intent.usualStats_asksDefaults : usualStats.AsksDefaults "season_batting" := by
  constructor <;> rfl

namespace Catalogue

/-- The built-in catalogue has a statement for it. -/
theorem builtIn_aggregated_usualStats :
    ∃ s, builtIn.aggregated 10 .usualStats = .ok s := by
  have hcolumn : (builtIn.table? "season_batting").any (fun table =>
      table.mainStats.any fun metric => (builtIn.resolve metric "season_batting").any fun column =>
        !(table.keyColumns false).contains column) = true := by
    decide +kernel
  obtain ⟨table, ht, hany⟩ := (Option.any_eq_true ..).1 hcolumn
  simp only [List.any_eq_true, Bool.not_eq_true', List.contains_eq_mem,
    decide_eq_false_iff_not] at hany
  exact (aggregated_defaults_iff builtIn 10 .usualStats "season_batting" table
    builtIn_violation? Intent.usualStats_asksDefaults ht).1.2 hany

/-- A catalogue of seasons whose only default is the name of the player. -/
def namesOnly : Catalogue where
  version := "1"
  tables := Dict.ofList [("season_batting",
    { source := "batting", nameCol := "player_name", mainStats := ["player"],
      metrics := Dict.ofList [("player", .direct "player_name")] })]

/-- It is consistent, but does not answer its own defaults. -/
theorem namesOnly_unanswered :
    namesOnly.violation? = none ∧ Intent.usualStats.AsksDefaults "season_batting" ∧
      (namesOnly.table? "season_batting").isSome = true ∧
      ¬ ∃ s, namesOnly.aggregated 100 .usualStats = .ok s := by
  refine ⟨by decide +kernel, Intent.usualStats_asksDefaults, by decide +kernel, ?_⟩
  rintro ⟨s, hs⟩
  have hnone : (namesOnly.aggregated 100 .usualStats).toOption.isSome = false := by
    decide +kernel
  rw [hs] at hnone
  cases hnone

end Catalogue

end Scorebook
