import Scorebook.Catalogue.BuiltIn
import Scorebook.Proofs.Query.Clauses
import Scorebook.Proofs.Query.Compile
import Scorebook.Proofs.Query.Outputs

/-!
# Groups of rows and their order

Where several types of pitches are asked for, the rows of a table are grouped by the columns that
tell them apart, and everything else that is shown or sorted by combines the rows of a group. Single
pitches are always grouped, by whatever is shown and is no aggregate. Main statement: the grouping
and the order of every query, with the direction of the order.
-/

namespace Scorebook

/-- Whether an expression is computed from all rows of a group. -/
def Expr.isAggregate : Expr → Bool
  | .column _ | .monthOf _ => false
  | _ => true

/-- The columns that tell the rows of a table apart: the player, the month if months are asked for
and the table has them and else the season, the team, and what the table lists besides. -/
def Table.keyColumns (table : Table) (monthly : Bool) : List String :=
  table.nameCol :: ((if monthly then table.monthCol.or table.yearCol else table.yearCol).toList
    ++ table.teamCol.toList ++ table.identityCols)

/-- How the rows of a group are combined in a column of a metric. -/
inductive Catalogue.Combines (c : Catalogue) (context : String) (table : Table) : Expr → Prop
  /-- Counts are added up. -/
  | count {metric column : String} (hcolumn : column ∈ c.resolve metric context)
    (hcount : c.isRate metric = false) : c.Combines context table (.total column)
  /-- Rates are averaged with the weights of the table. -/
  | weighted {metric column weight : String} (hcolumn : column ∈ c.resolve metric context)
    (hrate : c.isRate metric = true) (hweight : table.weightCol = some weight) :
    c.Combines context table (.weightedMean column weight)
  /-- Without weights all rows count alike. -/
  | unweighted {metric column : String} (hcolumn : column ∈ c.resolve metric context)
    (hrate : c.isRate metric = true) (hweight : table.weightCol = none) :
    c.Combines context table (.mean column)

/-- The grouping of a statement over a table goes with its outputs and its order. -/
structure Catalogue.GroupsTable (c : Catalogue) (context : String) (table : Table)
    (intent : Intent) (s : Statement) : Prop where
  /-- Rows are grouped exactly if several types of pitches are asked for. -/
  grouped_iff : s.grouping ≠ [] ↔ 1 < intent.pitchTypes.length
  /-- Groups have the columns that tell rows apart, each once. -/
  grouping_eq : s.grouping ≠ [] →
    s.grouping = (table.keyColumns intent.isMonthly).eraseDups.map Expr.column
  /-- These columns are shown first, and behind them only what combines the rows of a group. -/
  outputs_eq : s.grouping ≠ [] → ∃ rest, s.outputs.map Output.expr = s.grouping ++ rest ∧
    ∀ expr ∈ rest, c.Combines context table expr
  /-- Groups are sorted by what combines their rows, or by one of these columns. -/
  order_grouped : s.grouping ≠ [] → ∀ key, s.order = some key →
    c.Combines context table key.expr ∨ key.expr ∈ s.grouping
  /-- Rows that are not grouped are shown as they are. -/
  outputs_ungrouped : s.grouping = [] →
    ∀ output ∈ s.outputs, ∃ column, output.expr = .column column
  /-- They are sorted by a column as it is. -/
  order_ungrouped : s.grouping = [] →
    ∀ key, s.order = some key → ∃ column, key.expr = .column column

/-- The grouping of a statement over single pitches goes with its outputs. -/
structure MasterTable.GroupsPitches (master : MasterTable) (queryType : QueryType)
    (intent : Intent) (s : Statement) : Prop where
  /-- Pitches are grouped by what is shown and no aggregate. -/
  grouping_iff : ∀ text, text ∈ s.grouping.map Expr.sql ↔
    ∃ output ∈ s.outputs, output.expr.isAggregate = false ∧ output.expr.sql = text
  /-- This is the player, the season if one is given, and the month if months are asked for. -/
  keys_iff : ∀ text, text ∈ s.grouping.map Expr.sql ↔
    text = (if queryType.isPitching then master.pitcherCol else master.batterCol) ∨
      (intent.season ≠ none ∧ text = master.seasonCol) ∨
      (intent.split = some .monthly ∧ text = "EXTRACT(MONTH FROM " ++ master.dateCol ++ ")")

/-- The intent names a metric to sort by, and the rows have it: the context has a column for it, or
the single pitches an output. -/
def Catalogue.SortsBy (c : Catalogue) (strategy : Strategy) (intent : Intent) (metric : String) :
    Prop :=
  intent.orderBy = some metric ∧
    match strategy with
    | .aggregated => ∃ context, intent.contextKey = some context ∧ c.resolve metric context ≠ []
    | .eventLevel => ∃ master, c.master = some master ∧ metric ∈ master.columns.keys

/-- Months are asked for, and the rows have them; single pitches always do. -/
def Catalogue.HasMonths (c : Catalogue) (strategy : Strategy) (intent : Intent) : Prop :=
  intent.split = some .monthly ∧
    match strategy with
    | .aggregated => ∃ context table, intent.contextKey = some context ∧
        c.table? context = some table ∧ table.monthCol ≠ none
    | .eventLevel => True

/-- Less comes first: the rows are sorted by a metric of which less is better, or by the month for
want of a metric. -/
def Catalogue.Ascends (c : Catalogue) (strategy : Strategy) (intent : Intent) : Prop :=
  (∃ metric, c.SortsBy strategy intent metric ∧ c.isLowerBetter metric = true) ∨
    ((∀ metric, ¬ c.SortsBy strategy intent metric) ∧ c.HasMonths strategy intent)

/-- Months are asked for exactly by the split for them. -/
theorem Intent.isMonthly_iff {intent : Intent} :
    intent.isMonthly = true ↔ intent.split = some .monthly := by
  simp [isMonthly]

namespace Table

variable {table : Table} {monthly : Bool}

/-- What tells rows apart is a column as it is. -/
theorem expr_of_mem_identity {output : Output} (h : output ∈ table.identity monthly) :
    ∃ column, output.expr = .column column := by
  rcases mem_identity_cases h with rfl | ⟨month, -, rfl⟩ | ⟨year, -, rfl⟩ | ⟨team, -, rfl⟩ |
    ⟨column, -, rfl⟩
  · exact ⟨table.nameCol, rfl⟩
  · exact ⟨month, rfl⟩
  · exact ⟨year, rfl⟩
  · exact ⟨team, rfl⟩
  · exact ⟨column, rfl⟩

/-- The texts of what tells rows apart are the columns. -/
theorem texts_identity (table : Table) (monthly : Bool) :
    Output.texts (table.identity monthly) = table.keyColumns monthly := by
  have hperiod : Output.texts (table.period monthly).toList =
      (if monthly then table.monthCol.or table.yearCol else table.yearCol).toList := by
    unfold period
    cases monthly with
    | true => cases table.monthCol <;> cases table.yearCol <;> rfl
    | false => cases table.yearCol <;> rfl
  have hteam : Output.texts
      (table.teamCol.map fun team => (⟨.column team, "team"⟩ : Output)).toList =
        table.teamCol.toList := by
    cases table.teamCol <;> rfl
  have hothers : Output.texts (table.identityCols.map Output.plain) = table.identityCols := by
    rw [Output.texts, List.map_map]
    exact List.map_id _
  rw [Output.texts] at hperiod hteam hothers
  rw [Output.texts, identity, keyColumns, List.cons_append, List.cons_append, List.map_cons,
    List.map_append, List.map_append, hperiod, hteam, hothers]
  rfl

/-- So each of these columns is shown once. -/
theorem exprs_addAll_identity (table : Table) (monthly : Bool) :
    (Output.addAll [] (table.identity monthly)).map Output.expr =
      (table.keyColumns monthly).eraseDups.map Expr.column := by
  rw [← texts_identity, ← Output.texts_addAll_nil, Output.texts, List.map_map]
  apply List.map_congr_left
  intro output hmem
  obtain ⟨column, hcolumn⟩ :=
    expr_of_mem_identity ((Output.mem_addAll hmem).resolve_left List.not_mem_nil)
  show output.expr = .column output.expr.sql
  rw [hcolumn]
  rfl

/-- The order that is not asked for is by one of these columns. -/
theorem defaultOrder_mem {key : SortKey} (h : table.defaultOrder monthly = some key) :
    key.expr ∈ (table.keyColumns monthly).eraseDups.map Expr.column := by
  have hcolumn : ∃ column ∈ table.keyColumns monthly, key.expr = .column column := by
    rcases defaultOrder_cases h with ⟨month, rfl, hm, rfl⟩ | ⟨year, hnot, hy, rfl⟩
    · exact ⟨month, by simp [keyColumns, hm], rfl⟩
    · refine ⟨year, ?_, rfl⟩
      cases monthly with
      | true =>
        have hm : table.monthCol = none := by simpa using hnot
        simp [keyColumns, hm, hy]
      | false => simp [keyColumns, hy]
  obtain ⟨column, hmem, hexpr⟩ := hcolumn
  rw [hexpr]
  exact List.mem_map_of_mem (List.mem_eraseDups.2 hmem)

/-- A table that has the column of each condition collapses rows exactly if several types of pitches
are asked for. -/
theorem collapses_iff {intent : Intent} {binding : Binding}
    (hcols : ∀ value ∈ intent.valuesFor binding conditionSlots, (table.column? value.1).isSome) :
    table.collapses intent = true ↔ 1 < intent.pitchTypes.length := by
  simp only [collapses, Bool.and_eq_true, decide_eq_true_eq, and_iff_left_iff_imp]
  intro hlength
  have hne : intent.pitchTypes.isEmpty = false := by
    cases hp : intent.pitchTypes with
    | nil =>
      rw [hp] at hlength
      exact absurd hlength (Nat.not_lt_zero 1)
    | cons => rfl
  have hvalue : intent.value? binding .pitchTypes = some (.texts intent.pitchTypes) := by
    simp [Intent.value?, hne]
  have hslot : Slot.pitchTypes ∈ conditionSlots := by decide
  exact hcols _ (Intent.mem_valuesFor.2 ⟨hslot, hvalue⟩)

end Table

namespace Catalogue

variable {c : Catalogue} {context : String} {table : Table} {collapse : Bool} {intent : Intent}

/-- A column of a metric is combined by the rule for the metric. -/
theorem combines_collapsed {metric column : String} (h : column ∈ c.resolve metric context) :
    c.Combines context table (c.collapsed table metric column) := by
  unfold collapsed
  cases hrate : c.isRate metric with
  | false => exact .count h hrate
  | true =>
    cases hweight : table.weightCol with
    | none => exact .unweighted h hrate hweight
    | some weight => exact .weighted h hrate hweight

/-- The order of a statement over a table is by a metric or by default. -/
theorem tableOrder_cases {metrics : List String} {d : UInt32} {key : SortKey}
    (h : (c.tableStatement d intent metrics context table).order = some key) :
    (∃ metric column, intent.orderBy = some metric ∧ column ∈ c.resolve metric context ∧
        key = ⟨c.metricExpr table (table.collapses intent) metric column,
          !c.isLowerBetter metric⟩) ∨
      ((∀ metric, intent.orderBy = some metric → c.resolve metric context = []) ∧
        table.defaultOrder intent.isMonthly = some key) := by
  rcases Option.or_eq_some_iff.1 h with hmetric | ⟨hnone, hdefault⟩
  · obtain ⟨metric, hasked, hkey⟩ := Option.bind_eq_some_iff.1 hmetric
    obtain ⟨column, hhead, rfl⟩ := Option.map_eq_some_iff.1 hkey
    exact Or.inl ⟨metric, column, hasked, List.mem_of_head? hhead, rfl⟩
  · refine Or.inr ⟨fun metric hasked => ?_, hdefault⟩
    rw [hasked, Option.bind_some, metricOrder, Option.map_eq_none_iff] at hnone
    exact List.head?_eq_none_iff.1 hnone

/-- A statement over a table shows what tells the rows apart, and behind it columns of metrics. -/
theorem tableStatement_outputs (c : Catalogue) (d : UInt32) (intent : Intent)
    (metrics : List String) (context : String) (table : Table) :
    ∃ more, (c.tableStatement d intent metrics context table).outputs =
        Output.addAll [] (table.identity intent.isMonthly) ++ more ∧
      ∀ output ∈ more, ∃ metric ∈ c.expandMetrics metrics context,
        ∃ column ∈ c.resolve metric context,
          output = ⟨c.metricExpr table (table.collapses intent) metric column, column⟩ := by
  obtain ⟨more, houtputs, hsub⟩ := Output.addAll_eq_append
    (Output.addAll [] (table.identity intent.isMonthly))
    (c.metricOutputs table context (table.collapses intent) metrics)
  exact ⟨more, houtputs, fun _ hmem => mem_metricOutputs_iff.1 (hsub.mem hmem)⟩

/-- Collapsed rows are grouped by what tells them apart. -/
theorem tableStatement_grouping (d : UInt32) (metrics : List String) (context : String)
    (hc : table.collapses intent = true) :
    (c.tableStatement d intent metrics context table).grouping =
      (Output.addAll [] (table.identity intent.isMonthly)).map Output.expr := by
  rw [tableStatement, hc]
  rfl

/-- Other rows are not grouped. -/
theorem tableStatement_grouping_eq_nil (d : UInt32) (metrics : List String) (context : String)
    (hc : table.collapses intent = false) :
    (c.tableStatement d intent metrics context table).grouping = [] := by
  rw [tableStatement, hc]
  rfl

/-- The grouping of a statement over a table is as it has to be where rows collapse. -/
theorem tableStatement_groups_of_several {metrics : List String} {d : UInt32}
    (hc : table.collapses intent = true) (hseveral : 1 < intent.pitchTypes.length) :
    c.GroupsTable context table intent (c.tableStatement d intent metrics context table) := by
  have hgrouping := c.tableStatement_grouping d metrics context hc
  have hkeys := table.exprs_addAll_identity intent.isMonthly
  have hgrouped : (c.tableStatement d intent metrics context table).grouping ≠ [] := by
    rw [hgrouping, hkeys, Table.keyColumns, List.eraseDups_cons]
    exact List.cons_ne_nil _ _
  have hcombined : ∀ metric column, column ∈ c.resolve metric context →
      c.Combines context table (c.metricExpr table (table.collapses intent) metric column) := by
    intro metric column hcolumn
    rw [hc, metricExpr, if_pos rfl]
    exact combines_collapsed hcolumn
  constructor
  case grouped_iff => exact iff_of_true hgrouped hseveral
  case grouping_eq => exact fun _ => hgrouping.trans hkeys
  case outputs_eq =>
    intro _
    obtain ⟨more, houtputs, hmore⟩ := c.tableStatement_outputs d intent metrics context table
    refine ⟨more.map Output.expr, ?_, ?_⟩
    · rw [houtputs, hgrouping, List.map_append]
    · intro expr hexpr
      obtain ⟨output, hmem, rfl⟩ := List.mem_map.1 hexpr
      obtain ⟨metric, -, column, hcolumn, rfl⟩ := hmore output hmem
      exact hcombined metric column hcolumn
  case order_grouped =>
    intro _ key hkey
    rcases tableOrder_cases hkey with ⟨metric, column, -, hcolumn, rfl⟩ | ⟨-, hdefault⟩
    · exact Or.inl (hcombined metric column hcolumn)
    · exact Or.inr (hgrouping.trans hkeys ▸ Table.defaultOrder_mem hdefault)
  case outputs_ungrouped => exact fun h => absurd h hgrouped
  case order_ungrouped => exact fun h => absurd h hgrouped

/-- So it is where they do not. -/
theorem tableStatement_groups_of_few {metrics : List String} {d : UInt32}
    (hc : table.collapses intent = false) (hfew : ¬ 1 < intent.pitchTypes.length) :
    c.GroupsTable context table intent (c.tableStatement d intent metrics context table) := by
  have hgrouping := c.tableStatement_grouping_eq_nil d metrics context hc
  have hplain : ∀ metric column, c.metricExpr table (table.collapses intent) metric column =
      .column column := by
    intro metric column
    rw [hc, metricExpr, if_neg Bool.false_ne_true]
  constructor
  case grouped_iff => exact iff_of_false (not_not.2 hgrouping) hfew
  case grouping_eq => exact fun h => absurd hgrouping h
  case outputs_eq => exact fun h => absurd hgrouping h
  case order_grouped => exact fun h => absurd hgrouping h
  case outputs_ungrouped =>
    intro _ output hmem
    obtain ⟨more, houtputs, hmore⟩ := c.tableStatement_outputs d intent metrics context table
    rw [houtputs, List.mem_append] at hmem
    rcases hmem with hmem | hmem
    · exact Table.expr_of_mem_identity ((Output.mem_addAll hmem).resolve_left List.not_mem_nil)
    · obtain ⟨metric, -, column, -, rfl⟩ := hmore output hmem
      exact ⟨column, hplain metric column⟩
  case order_ungrouped =>
    intro _ key hkey
    rcases tableOrder_cases hkey with ⟨metric, column, -, -, rfl⟩ | ⟨-, hdefault⟩
    · exact ⟨column, hplain metric column⟩
    · obtain ⟨column, -, hexpr⟩ := List.mem_map.1 (Table.defaultOrder_mem hdefault)
      exact ⟨column, hexpr.symm⟩

/-- The grouping of a statement over a table is as it has to be. -/
theorem tableStatement_groups {metrics : List String} {d : UInt32}
    (hcollapse : table.collapses intent = true ↔ 1 < intent.pitchTypes.length) :
    c.GroupsTable context table intent (c.tableStatement d intent metrics context table) := by
  cases hc : table.collapses intent with
  | true => exact tableStatement_groups_of_several hc (hcollapse.1 hc)
  | false =>
    refine tableStatement_groups_of_few hc fun h => ?_
    rw [hcollapse.2 h] at hc
    cases hc

/-- The statistics over pitches are aggregates. -/
theorem isAggregate_of_mem_pitchOutputs {output : Output} (h : output ∈ pitchOutputs) :
    output.expr.isAggregate = true := by
  obtain ⟨⟨name, statistic⟩, -, rfl⟩ := List.mem_map.1 h
  rfl

/-- What tells the groups apart is no aggregate. -/
theorem isAggregate_of_mem_identity {master : MasterTable} {queryType : QueryType}
    {output : Output} (h : output ∈ master.identity queryType intent) :
    output.expr.isAggregate = false := by
  simp only [MasterTable.identity, List.cons_append, List.mem_cons, List.mem_append] at h
  rcases h with rfl | hseason | hmonth
  · rfl
  · split at hseason
    · obtain rfl := List.mem_singleton.1 hseason
      rfl
    · cases hseason
  · split at hmonth
    · obtain rfl := List.mem_singleton.1 hmonth
      rfl
    · cases hmonth

/-- The grouping of a statement over single pitches is as it has to be. -/
theorem pitchStatement_groups {d : UInt32} {queryType : QueryType} {master : MasterTable} :
    master.GroupsPitches queryType intent (c.pitchStatement d intent queryType master) where
  grouping_iff text := by
    have hgrouping : (c.pitchStatement d intent queryType master).grouping.map Expr.sql =
        Output.texts (master.identity queryType intent) := by
      rw [pitchStatement, List.map_map]
      rfl
    rw [hgrouping]
    constructor
    · intro htext
      rw [← List.mem_eraseDups, ← Output.texts_addAll_nil] at htext
      obtain ⟨output, hmem, rfl⟩ := List.mem_map.1 htext
      have hidentity := (Output.mem_addAll hmem).resolve_left List.not_mem_nil
      obtain ⟨more, houtputs, -⟩ := Output.addAll_eq_append
        (Output.addAll [] (master.identity queryType intent)) pitchOutputs
      rw [← Output.addAll_append] at houtputs
      have hshown : output ∈ (c.pitchStatement d intent queryType master).outputs := by
        rw [pitchStatement, houtputs]
        exact List.mem_append_left _ hmem
      exact ⟨output, hshown, isAggregate_of_mem_identity hidentity, rfl⟩
    · rintro ⟨output, hshown, hplain, rfl⟩
      have hmem := (Output.mem_addAll hshown).resolve_left List.not_mem_nil
      rcases List.mem_append.1 hmem with hidentity | hstatistic
      · exact List.mem_map_of_mem hidentity
      · rw [isAggregate_of_mem_pitchOutputs hstatistic] at hplain
        cases hplain
  keys_iff text := by
    have hseason : intent.season.isSome = true ↔ intent.season ≠ none := by
      rw [Option.isSome_iff_ne_none]
    have hmonth : intent.isMonthly = true ↔ intent.split = some .monthly := Intent.isMonthly_iff
    have hperiod {present : Bool} {expr : Expr} {name : String} :
        text ∈ (if present then [(⟨expr, name⟩ : Output)] else []).map (fun o => o.expr.sql) ↔
          present = true ∧ text = expr.sql := by
      cases present <;> simp
    rw [pitchStatement, List.map_map, MasterTable.identity, List.map_append, List.map_cons,
      List.mem_append, List.mem_cons, or_assoc]
    exact or_congr Iff.rfl (or_congr (hperiod.trans (and_congr_left' hseason))
      (hperiod.trans (and_congr_left' hmonth)))

/-- The order of a statement over single pitches is by a metric or by default. -/
theorem pitchOrder_cases {d : UInt32} {queryType : QueryType} {master : MasterTable}
    {key : SortKey} (h : (c.pitchStatement d intent queryType master).order = some key) :
    (∃ metric name, intent.orderBy = some metric ∧ master.columns.get? metric = some name ∧
        key = ⟨.column name, !c.isLowerBetter metric⟩) ∨
      ((∀ metric, intent.orderBy = some metric → master.columns.get? metric = none) ∧
        key = MasterTable.defaultOrder intent.isMonthly) := by
  rcases Option.or_eq_some_iff.1 h with hmetric | ⟨hnone, hdefault⟩
  · obtain ⟨metric, hasked, hkey⟩ := Option.bind_eq_some_iff.1 hmetric
    obtain ⟨name, hname, rfl⟩ := Option.map_eq_some_iff.1 hkey
    exact Or.inl ⟨metric, name, hasked, hname, rfl⟩
  · refine Or.inr ⟨fun metric hasked => ?_, (Option.some.inj hdefault).symm⟩
    rw [hasked, Option.bind_some, pitchOrder, Option.map_eq_none_iff] at hnone
    exact hnone

variable {strategy : Strategy}

/-- The order by a metric ascends exactly if less of the metric is better. -/
theorem ascends_of_sortsBy {metric : String} (h : c.SortsBy strategy intent metric) :
    c.Ascends strategy intent ↔ c.isLowerBetter metric = true := by
  constructor
  · rintro (⟨other, hother, hlower⟩ | ⟨hnone, -⟩)
    · obtain rfl := Option.some.inj (h.1.symm.trans hother.1)
      exact hlower
    · exact absurd h (hnone metric)
  · intro hlower
    exact Or.inl ⟨metric, h, hlower⟩

/-- For want of a metric the order ascends exactly if it is by the month. -/
theorem ascends_of_not_sortsBy (h : ∀ metric, ¬ c.SortsBy strategy intent metric) :
    c.Ascends strategy intent ↔ c.HasMonths strategy intent := by
  constructor
  · rintro (⟨metric, hsorts, -⟩ | ⟨-, hmonths⟩)
    · exact absurd hsorts (h metric)
    · exact hmonths
  · intro hmonths
    exact Or.inr ⟨h, hmonths⟩

/-- By default, tables are sorted forwards by months and backwards by seasons. -/
theorem defaultOrder_descending {monthly : Bool} {key : SortKey}
    (h : table.defaultOrder monthly = some key) :
    key.descending = false ↔ monthly = true ∧ table.monthCol ≠ none := by
  rcases Table.defaultOrder_cases h with ⟨month, rfl, hm, rfl⟩ | ⟨year, hnot, -, rfl⟩
  · simp [hm]
  · constructor
    · intro hfalse
      cases hfalse
    · intro hmonth
      exact absurd hmonth hnot

/-- The order over a table ascends exactly where it has to. -/
theorem tableStatement_ascends {metrics : List String} {d : UInt32} {key : SortKey}
    (hcontext : intent.contextKey = some context) (htable : c.table? context = some table)
    (h : (c.tableStatement d intent metrics context table).order = some key) :
    key.descending = false ↔ c.Ascends .aggregated intent := by
  rcases tableOrder_cases h with ⟨metric, column, hasked, hcolumn, rfl⟩ | ⟨hnone, hdefault⟩
  · have hsorts : c.SortsBy .aggregated intent metric :=
      ⟨hasked, context, hcontext, List.ne_nil_of_mem hcolumn⟩
    rw [ascends_of_sortsBy hsorts]
    simp
  · have hsorts : ∀ metric, ¬ c.SortsBy .aggregated intent metric := by
      rintro metric ⟨hasked, context', hcontext', hne⟩
      obtain rfl := Option.some.inj (hcontext.symm.trans hcontext')
      exact hne (hnone metric hasked)
    rw [ascends_of_not_sortsBy hsorts, defaultOrder_descending hdefault, Intent.isMonthly_iff]
    apply and_congr_right
    intro _
    constructor
    · intro hmonth
      exact ⟨context, table, hcontext, htable, hmonth⟩
    · rintro ⟨context', table', hcontext', htable', hmonth⟩
      obtain rfl := Option.some.inj (hcontext.symm.trans hcontext')
      obtain rfl := Option.some.inj (htable.symm.trans htable')
      exact hmonth

/-- The order over single pitches ascends exactly where it has to. -/
theorem pitchStatement_ascends {d : UInt32} {queryType : QueryType} {master : MasterTable}
    {key : SortKey} (hmaster : c.master = some master)
    (h : (c.pitchStatement d intent queryType master).order = some key) :
    key.descending = false ↔ c.Ascends .eventLevel intent := by
  rcases pitchOrder_cases h with ⟨metric, name, hasked, hname, rfl⟩ | ⟨hnone, rfl⟩
  · have hsorts : c.SortsBy .eventLevel intent metric :=
      ⟨hasked, master, hmaster, Dict.mem_keys_iff.2 ⟨name, hname⟩⟩
    rw [ascends_of_sortsBy hsorts]
    simp
  · have hsorts : ∀ metric, ¬ c.SortsBy .eventLevel intent metric := by
      rintro metric ⟨hasked, master', hmaster', hkey⟩
      obtain rfl := Option.some.inj (hmaster.symm.trans hmaster')
      obtain ⟨name, hname⟩ := Dict.mem_keys_iff.1 hkey
      rw [hnone metric hasked] at hname
      cases hname
    rw [ascends_of_not_sortsBy hsorts, HasMonths, ← Intent.isMonthly_iff]
    unfold MasterTable.defaultOrder
    cases intent.isMonthly <;> simp

end Catalogue

/-- The text of a sort key tells its direction. -/
theorem SortKey.sql_eq_iff (key : SortKey) :
    (key.sql = key.expr.sql ++ " ASC" ↔ key.descending = false) ∧
      (key.sql = key.expr.sql ++ " DESC" ↔ ¬ key.descending = false) := by
  unfold sql
  cases key.descending <;> simp

/-- Everything that may be shown of the pitches of a player, whose name is in a column. -/
def MasterTable.pitchColumns (master : MasterTable) (subject : String) : List Output :=
  [⟨.column subject, "name"⟩, ⟨.column master.seasonCol, "season"⟩,
    ⟨.monthOf master.dateCol, "month"⟩] ++ Catalogue.pitchOutputs

/-- What a statement shows is some of this. -/
theorem MasterTable.identity_sublist (master : MasterTable) (queryType : QueryType)
    (intent : Intent) :
    (master.identity queryType intent ++ Catalogue.pitchOutputs).Sublist
      (master.pitchColumns (master.subjectCol queryType)) := by
  apply List.Sublist.append_right
  apply List.Sublist.cons_cons
  cases intent.season.isSome <;> cases intent.isMonthly <;> simp

namespace Catalogue

/-- In the built-in catalogue, neither the texts nor the names are repeated. -/
theorem builtIn_pitchColumns_nodup (queryType : QueryType) :
    (Output.texts (BuiltIn.master.pitchColumns (BuiltIn.master.subjectCol queryType))).Nodup ∧
      ((BuiltIn.master.pitchColumns (BuiltIn.master.subjectCol queryType)).map
        Output.name).Nodup := by
  have hsubjects : ∀ subject ∈ [BuiltIn.master.pitcherCol, BuiltIn.master.batterCol],
      (Output.texts (BuiltIn.master.pitchColumns subject)).Nodup ∧
        ((BuiltIn.master.pitchColumns subject).map Output.name).Nodup := by
    decide +kernel
  apply hsubjects
  unfold MasterTable.subjectCol
  split <;> simp

/-- So nothing is left out. -/
theorem builtIn_pitchOutputs {c : Catalogue} {d : UInt32} {intent : Intent}
    {queryType : QueryType} :
    (c.pitchStatement d intent queryType BuiltIn.master).outputs =
      BuiltIn.master.identity queryType intent ++ pitchOutputs := by
  have htexts := (BuiltIn.master.identity_sublist queryType intent).map fun o => o.expr.sql
  exact Output.addAll_nil_of_nodup ((builtIn_pitchColumns_nodup queryType).1.sublist htexts)

/-- Single pitches are sorted by one of the names that are shown. -/
theorem builtIn_pitchOrder_mem {c : Catalogue} {d : UInt32} {intent : Intent}
    {queryType : QueryType} {key : SortKey}
    (h : (c.pitchStatement d intent queryType BuiltIn.master).order = some key) :
    key.expr.sql ∈
      (c.pitchStatement d intent queryType BuiltIn.master).outputs.map Output.name := by
  have hcolumns : ∀ name ∈ BuiltIn.master.columns.values,
      name ∈ pitchOutputs.map Output.name := by
    decide +kernel
  have hdefault : "plate_appearances" ∈ pitchOutputs.map Output.name := by
    decide +kernel
  rw [builtIn_pitchOutputs, List.map_append, List.mem_append]
  rcases pitchOrder_cases h with ⟨metric, name, -, hname, rfl⟩ | ⟨-, rfl⟩
  · exact Or.inr (hcolumns name (Dict.mem_values_of_get? hname))
  · unfold MasterTable.defaultOrder MasterTable.identity
    cases intent.isMonthly with
    | true =>
      refine Or.inl (List.mem_map.2 ⟨⟨.monthOf BuiltIn.master.dateCol, "month"⟩, ?_, rfl⟩)
      simp
    | false => exact Or.inr hdefault

/-- Over tables, rows are grouped exactly if several types of pitches are asked for, by the columns
that tell them apart, and what else is shown or sorted by combines the rows of a group. Single
pitches are grouped by whatever is shown and no aggregate, and those of the built-in catalogue are
sorted by a name that is shown. In all cases the order ascends exactly if it is by a metric of which
less is better, or by the month for want of a metric. -/
theorem compile_groups_and_sorts (c : Catalogue) (strategy : Strategy) (defaultLimit : UInt32)
    (intent : Intent) (q : Query) (h : c.compile strategy defaultLimit intent = .ok q) :
    ∃ s, c.statement strategy defaultLimit intent = .ok s ∧ q = s.query ∧
      q.sql = s.clauses.text ∧
      (strategy = .aggregated → ∃ context table, intent.contextKey = some context ∧
        c.table? context = some table ∧ c.GroupsTable context table intent s) ∧
      (strategy = .eventLevel → ∃ queryType master, intent.queryType = some queryType ∧
        c.master = some master ∧ master.GroupsPitches queryType intent s ∧
        (c = builtIn → ∃ key, s.order = some key ∧
          key.expr.sql ∈ s.outputs.map Output.name)) ∧
      ∀ key, s.order = some key →
        (key.sql = key.expr.sql ++ " ASC" ↔ c.Ascends strategy intent) ∧
          (key.sql = key.expr.sql ++ " DESC" ↔ ¬ c.Ascends strategy intent) := by
  have hdirection {key : SortKey} (hkey : key.descending = false ↔ c.Ascends strategy intent) :
      (key.sql = key.expr.sql ++ " ASC" ↔ c.Ascends strategy intent) ∧
        (key.sql = key.expr.sql ++ " DESC" ↔ ¬ c.Ascends strategy intent) :=
    ⟨key.sql_eq_iff.1.trans hkey, key.sql_eq_iff.2.trans (not_congr hkey)⟩
  obtain ⟨s, hs, rfl⟩ := compile_eq_ok_iff.1 h
  refine ⟨s, hs, rfl, s.query_sql, ?_⟩
  cases strategy with
  | aggregated =>
    obtain ⟨metrics, context, table, -, hcontext, htable, -, hcols, rfl⟩ :=
      aggregated_eq_ok_iff.1 hs
    have hcollapse := Table.collapses_iff hcols
    refine ⟨fun _ => ⟨context, table, hcontext, htable, tableStatement_groups hcollapse⟩,
      fun he => absurd he (by decide), fun key hkey => ?_⟩
    exact hdirection (tableStatement_ascends hcontext htable hkey)
  | eventLevel =>
    obtain ⟨queryType, master, hquery, hmaster, rfl⟩ := eventLevel_eq_ok_iff.1 hs
    refine ⟨fun he => absurd he (by decide), fun _ => ⟨queryType, master, hquery, hmaster,
      pitchStatement_groups, ?_⟩, fun key hkey => ?_⟩
    · rintro rfl
      obtain rfl := Option.some.inj hmaster
      obtain ⟨key, hkey⟩ : ∃ key,
          (builtIn.pitchStatement defaultLimit intent queryType BuiltIn.master).order = some key :=
        Option.isSome_iff_exists.1 (by simp [pitchStatement])
      exact ⟨key, hkey, builtIn_pitchOrder_mem hkey⟩
    · exact hdirection (pitchStatement_ascends hmaster hkey)

end Catalogue

/-- The averages against two types of pitches, the highest first. -/
def Intent.againstTwoPitches : Intent where
  queryType := some .pitchingSplits
  split := some .pitchType
  metrics := some ["opponent_avg"]
  pitchTypes := ["Slider", "Cutter"]
  orderBy := some "opponent_avg"

/-- Its rows are grouped by player, season, team and type of pitch, and sorted backwards. -/
theorem Catalogue.compile_againstTwoPitches :
    ∃ (q : Query) (s : Statement),
      builtIn.compile .aggregated 10 .againstTwoPitches = .ok q ∧ q = s.query ∧
      s.grouping = [.column "player_name", .column "season", .column "team",
        .column "pitch_name"] ∧
      ∀ key, s.order = some key → key.sql = key.expr.sql ++ " DESC" := by
  have hsome : (builtIn.compile .aggregated 10 .againstTwoPitches).toOption.isSome = true := by
    decide +kernel
  have hkeys : (builtIn.table? "pitching_splits_pitch_type").map (fun t => t.keyColumns false) =
      some ["player_name", "season", "team", "pitch_name"] := by
    decide +kernel
  have hrate : builtIn.isLowerBetter "opponent_avg" = false := by
    decide +kernel
  obtain ⟨q, hq⟩ := exists_of_toOption_isSome hsome
  obtain ⟨s, -, hquery, -, htable, -, hsorts⟩ :=
    compile_groups_and_sorts builtIn .aggregated 10 .againstTwoPitches q hq
  obtain ⟨context, table, hcontext, htable, hgroups⟩ := htable rfl
  obtain rfl : "pitching_splits_pitch_type" = context := Option.some.inj hcontext
  have hgrouped : s.grouping ≠ [] := hgroups.grouped_iff.2 (by decide)
  have htableKeys : table.keyColumns false = ["player_name", "season", "team", "pitch_name"] := by
    rw [htable] at hkeys
    exact Option.some.inj hkeys
  have hgrouping := hgroups.grouping_eq hgrouped
  have hmonthly : Intent.againstTwoPitches.isMonthly = false := rfl
  rw [hmonthly, htableKeys] at hgrouping
  refine ⟨q, s, hq, hquery, hgrouping.trans (by decide +kernel), fun key hkey => ?_⟩
  apply (hsorts key hkey).2.2
  rintro (⟨metric, ⟨hasked, -⟩, hlower⟩ | ⟨-, hmonths, -⟩)
  · obtain rfl : "opponent_avg" = metric := Option.some.inj hasked
    rw [hrate] at hlower
    cases hlower
  · cases hmonths

end Scorebook
