import Scorebook.Proofs.Outcome
import Scorebook.Proofs.Query.Values
import Scorebook.Query.Compile

/-!
# When there is a query, and which

An intent gets a statement over the table of its context exactly if that table adds a column for
one of its metrics and has a column for each of its conditions; over single pitches, exactly if
there is a master table. In both cases the statement is written out here, so that what follows about
queries need not look at how they are built.
-/

namespace Scorebook

namespace Table

variable {table : Table} {monthly : Bool}

/-- The conditions for the placeholders that have values, as far as the table has their columns. -/
def conditions (table : Table) (values : List (Slot × Param)) : List Condition :=
  values.filterMap fun value => (table.column? value.1).map (.meets value.1)

/-- The period of a row is its month or its season, and the table has that column. -/
theorem period_cases {output : Output} (h : table.period monthly = some output) :
    (∃ month, table.monthCol = some month ∧ output = ⟨.column month, "month"⟩) ∨
      ∃ year, table.yearCol = some year ∧ output = ⟨.column year, "season"⟩ := by
  unfold period at h
  split at h
  · rename_i month hm
    refine Or.inl ⟨month, ?_, (Option.some.inj h).symm⟩
    cases monthly with
    | true => exact hm
    | false => cases hm
  · obtain ⟨year, hy, rfl⟩ := Option.map_eq_some_iff.1 h
    exact Or.inr ⟨year, hy, rfl⟩

/-- What tells the rows apart is the player, a period, the team or a column that the table lists. -/
theorem mem_identity_cases {output : Output} (h : output ∈ table.identity monthly) :
    output = ⟨.column table.nameCol, "name"⟩ ∨
      (∃ month, table.monthCol = some month ∧ output = ⟨.column month, "month"⟩) ∨
      (∃ year, table.yearCol = some year ∧ output = ⟨.column year, "season"⟩) ∨
      (∃ team, table.teamCol = some team ∧ output = ⟨.column team, "team"⟩) ∨
      ∃ column ∈ table.identityCols, output = .plain column := by
  simp only [identity, List.cons_append, List.mem_cons, List.mem_append, Option.mem_toList,
    List.mem_map, Option.map_eq_some_iff] at h
  rcases h with hname | (hperiod | ⟨team, ht, rfl⟩) | ⟨column, hc, rfl⟩
  · exact Or.inl hname
  · rcases period_cases hperiod with hmonth | hyear
    · exact Or.inr (Or.inl hmonth)
    · exact Or.inr (Or.inr (Or.inl hyear))
  · exact Or.inr (Or.inr (Or.inr (Or.inl ⟨team, ht, rfl⟩)))
  · exact Or.inr (Or.inr (Or.inr (Or.inr ⟨column, hc, rfl⟩)))

/-- Rows are sorted forwards by months if these are asked for and the table has them, and else
backwards by seasons. -/
theorem defaultOrder_cases {key : SortKey} (h : table.defaultOrder monthly = some key) :
    (∃ month, monthly = true ∧ table.monthCol = some month ∧ key = ⟨.column month, false⟩) ∨
      ∃ year, ¬ (monthly = true ∧ table.monthCol ≠ none) ∧ table.yearCol = some year ∧
        key = ⟨.column year, true⟩ := by
  unfold defaultOrder at h
  split at h
  · rename_i month hm
    cases monthly with
    | true => exact Or.inl ⟨month, rfl, hm, (Option.some.inj h).symm⟩
    | false => cases hm
  · rename_i hnone
    obtain ⟨year, hy, rfl⟩ := Option.map_eq_some_iff.1 h
    refine Or.inr ⟨year, ?_, hy, rfl⟩
    rintro ⟨rfl, hm⟩
    exact hm hnone

end Table

/-- Each condition on single pitches has its column. -/
theorem MasterTable.column_isSome {master : MasterTable} {queryType : QueryType} {slot : Slot}
    (h : slot ∈ conditionSlots) : (master.column queryType slot).isSome := by
  cases slot with
  | gameScore => exact absurd h (by decide)
  | limit => exact absurd h (by decide)
  | _ => rfl

/-- Only an intent with a query type has a context. -/
theorem Intent.queryType_of_contextKey {intent : Intent} {context : String}
    (h : intent.contextKey = some context) : ∃ queryType, intent.queryType = some queryType := by
  cases hqt : intent.queryType with
  | none =>
    rw [contextKey, hqt] at h
    cases h
  | some queryType => exact ⟨queryType, rfl⟩

namespace Catalogue

variable {c : Catalogue} {defaultLimit : UInt32} {intent : Intent} {s : Statement}

/-- The first condition exists if its column does, and the others are put behind it. -/
theorem tableConditions_cons (table : Table) (context : String) (value : Slot × Param)
    (values : List (Slot × Param)) :
    tableConditions table context (value :: values) =
      match table.column? value.1 with
      | some column =>
        (tableConditions table context values).map (.meets value.1 column :: ·)
      | none => .error (.noColumn context value.1.field) := by
  simp only [tableConditions, List.mapM_cons]
  cases table.column? value.1 <;> rfl

/-- The conditions exist exactly if each of them has its column. -/
theorem tableConditions_eq_ok_iff {table : Table} {context : String}
    {values : List (Slot × Param)} {conditions : List Condition} :
    tableConditions table context values = .ok conditions ↔
      (∀ value ∈ values, (table.column? value.1).isSome) ∧
        conditions = table.conditions values := by
  induction values generalizing conditions with
  | nil =>
    exact ⟨fun h => ⟨List.forall_mem_nil _, (Except.ok.inj h).symm⟩,
      fun h => congrArg Except.ok h.2.symm⟩
  | cons value values ih =>
    rw [tableConditions_cons, List.forall_mem_cons]
    cases hc : table.column? value.1 with
    | none => simp
    | some column =>
      have hs : table.conditions (value :: values) =
          .meets value.1 column :: table.conditions values := by
        simp [Table.conditions, hc]
      simp only [map_eq_ok_iff, ih, hs, Option.isSome_some, true_and]
      constructor
      · rintro ⟨rest, ⟨hall, rfl⟩, rfl⟩
        exact ⟨hall, rfl⟩
      · rintro ⟨hall, rfl⟩
        exact ⟨_, ⟨hall, rfl⟩, rfl⟩

/-- The statement over a table. -/
def tableStatement (c : Catalogue) (defaultLimit : UInt32) (intent : Intent)
    (metrics : List String) (context : String) (table : Table) : Statement :=
  let collapse := table.collapses intent
  let identity := Output.addAll [] (table.identity intent.isMonthly)
  { outputs := Output.addAll identity (c.metricOutputs table context collapse metrics)
    source := table.source
    conditions :=
      table.conditions (intent.valuesFor (tableBinding defaultLimit) Table.conditionSlots)
    grouping := if collapse then identity.map Output.expr else []
    order := (intent.orderBy.bind (c.metricOrder table context collapse)).or
      (table.defaultOrder intent.isMonthly)
    values := intent.valuesFor (tableBinding defaultLimit) (Table.conditionSlots ++ [.limit]) }

/-- The columns of a metric in a context are those that the table lists for it. -/
theorem mem_resolve_iff {context metric column : String} {table : Table}
    (ht : c.table? context = some table) :
    column ∈ c.resolve metric context ↔
      ∃ descriptor, table.metrics.get? metric = some descriptor ∧ column ∈ descriptor.columns := by
  rw [resolve, descriptor?, ht, Option.bind_some]
  cases table.metrics.get? metric with
  | none => simp
  | some descriptor => simp

/-- The outputs of metrics are the columns of the metrics that the list asks for. -/
theorem mem_metricOutputs_iff {context : String} {table : Table} {collapse : Bool}
    {metrics : List String} {output : Output} :
    output ∈ c.metricOutputs table context collapse metrics ↔
      ∃ metric ∈ c.expandMetrics metrics context, ∃ column ∈ c.resolve metric context,
        output = ⟨c.metricExpr table collapse metric column, column⟩ := by
  simp only [metricOutputs, List.mem_flatMap, List.mem_map, eq_comm]

/-- Whether one of the metrics adds a column to those that tell the rows apart. -/
def AddsMetric (c : Catalogue) (intent : Intent) (metrics : List String) (context : String)
    (table : Table) : Prop :=
  (Output.addAll (Output.addAll [] (table.identity intent.isMonthly))
      (c.metricOutputs table context (table.collapses intent) metrics)).length ≠
    (Output.addAll [] (table.identity intent.isMonthly)).length

/-- There is a statement over the table of the context, and it is this one, exactly if the table
adds a metric and has the column of each condition. -/
theorem aggregated_eq_ok_iff :
    c.aggregated defaultLimit intent = .ok s ↔
      ∃ metrics context table, intent.metrics = some metrics ∧ intent.contextKey = some context ∧
        c.table? context = some table ∧ c.AddsMetric intent metrics context table ∧
        (∀ value ∈ intent.valuesFor (tableBinding defaultLimit) Table.conditionSlots,
          (table.column? value.1).isSome) ∧
        s = c.tableStatement defaultLimit intent metrics context table := by
  constructor
  · intro h
    unfold aggregated at h
    split at h
    · rename_i metrics context hm hk
      split at h
      · cases h
      · rename_i table ht
        dsimp only at h
        split at h
        · cases h
        · rename_i hadds
          obtain ⟨conditions, hc, rfl⟩ := map_eq_ok_iff.1 h
          obtain ⟨hall, rfl⟩ := tableConditions_eq_ok_iff.1 hc
          refine ⟨metrics, context, table, hm, hk, ht, hadds, hall, ?_⟩
          rw [tableStatement, Intent.valuesFor_append]
    · cases h
  · rintro ⟨metrics, context, table, hm, hk, ht, hadds, hall, rfl⟩
    have hc : tableConditions table context _ = .ok _ := tableConditions_eq_ok_iff.2 ⟨hall, rfl⟩
    simp only [aggregated, hm, hk, ht, if_neg hadds, hc, Except.map, tableStatement,
      Intent.valuesFor_append]

/-- The statement over single pitches. -/
def pitchStatement (c : Catalogue) (defaultLimit : UInt32) (intent : Intent)
    (queryType : QueryType) (master : MasterTable) : Statement :=
  let identity := master.identity queryType intent
  { outputs := Output.addAll [] (identity ++ pitchOutputs)
    source := master.source
    conditions := master.conditions queryType intent
      (intent.valuesFor (pitchBinding defaultLimit) MasterTable.conditionSlots)
    grouping := identity.map Output.expr
    order := (intent.orderBy.bind (c.pitchOrder master)).or
      (some (MasterTable.defaultOrder intent.isMonthly))
    values :=
      intent.valuesFor (pitchBinding defaultLimit) (MasterTable.conditionSlots ++ [.limit]) }

/-- There is a statement over single pitches, and it is this one, exactly if the intent has a query
type and the catalogue a master table. -/
theorem eventLevel_eq_ok_iff :
    c.eventLevel defaultLimit intent = .ok s ↔
      ∃ queryType master, intent.queryType = some queryType ∧ c.master = some master ∧
        s = c.pitchStatement defaultLimit intent queryType master := by
  constructor
  · intro h
    unfold eventLevel at h
    split at h
    · cases h
    · cases h
    · rename_i queryType master hq hm
      refine ⟨queryType, master, hq, hm, ?_⟩
      rw [pitchStatement, Intent.valuesFor_append]
      exact (Except.ok.inj h).symm
  · rintro ⟨queryType, master, hq, hm, rfl⟩
    simp only [eventLevel, hq, hm, pitchStatement, Intent.valuesFor_append]

/-- The conventions under which a strategy binds values. -/
def binding (defaultLimit : UInt32) : Strategy → Binding
  | .aggregated => tableBinding defaultLimit
  | .eventLevel => pitchBinding defaultLimit

/-- The placeholders that a strategy may need, in the order in which they are written. -/
def slots : Strategy → List Slot
  | .aggregated => Table.conditionSlots ++ [.limit]
  | .eventLevel => MasterTable.conditionSlots ++ [.limit]

/-- No strategy writes a placeholder twice. -/
theorem slots_nodup (strategy : Strategy) : (slots strategy).Nodup := by
  cases strategy <;> decide

/-- A statement binds the values of the intent for the placeholders of the strategy. -/
theorem statement_values {strategy : Strategy}
    (h : c.statement strategy defaultLimit intent = .ok s) :
    s.values = intent.valuesFor (binding defaultLimit strategy) (slots strategy) := by
  cases strategy with
  | aggregated =>
    obtain ⟨metrics, context, table, -, -, -, -, -, rfl⟩ := aggregated_eq_ok_iff.1 h
    rfl
  | eventLevel =>
    obtain ⟨queryType, master, -, -, rfl⟩ := eventLevel_eq_ok_iff.1 h
    rfl

/-- A query is the text and the values of a statement. -/
theorem compile_eq_ok_iff {strategy : Strategy} {q : Query} :
    c.compile strategy defaultLimit intent = .ok q ↔
      ∃ s, c.statement strategy defaultLimit intent = .ok s ∧ q = s.query := by
  rw [compile, map_eq_ok_iff]
  simp only [eq_comm]

end Catalogue

end Scorebook
