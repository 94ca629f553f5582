import Scorebook.Proofs.Answer.Cells
import Scorebook.Proofs.Query.Grouping

/-!
# Rates are averaged and rounded, counts added up and left alone

That a metric is a rate decides twice: by its key, how its columns are combined for several types of
pitches, and by the names of its columns, which cells of an answer are rounded. Main statement: the
two go together. In the built-in catalogue the names tell rates from counts, so no count that was
added up is taken for a number with decimals.
-/

namespace Scorebook

/-- How a column of a metric is combined for several types of pitches. -/
inductive Catalogue.CombinedAs (c : Catalogue) (table : Table) (metric column : String) :
    String → Prop
  /-- A rate is averaged with the weights of the table. -/
  | weighted {weight : String} (hrate : c.isRate metric = true)
    (hweight : table.weightCol = some weight) :
    c.CombinedAs table metric column
      ("SUM(" ++ column ++ " * " ++ weight ++ ") / NULLIF(SUM(" ++ weight ++ "), 0)")
  /-- Without weights all rows count alike. -/
  | averaged (hrate : c.isRate metric = true) (hweight : table.weightCol = none) :
    c.CombinedAs table metric column ("AVG(" ++ column ++ ")")
  /-- A count is added up. -/
  | added (hcount : c.isRate metric = false) :
    c.CombinedAs table metric column ("SUM(" ++ column ++ ")")

/-- Of a row a column shows a cell, rounded, and nothing else. -/
structure Catalogue.RoundsCell (columns : List String) (row : List Json) (column : String)
    (shown : Dict Json) : Prop where
  /-- What is shown is a cell of a column of the name. -/
  only : ∀ value, shown.get? column = some value → ∃ (i : Nat) (cell : Json),
    columns[i]? = some column ∧ row[i]? = some cell ∧ cell.RoundedAs value
  /-- The cell of the last such column that the row reaches is shown. -/
  last : ∀ (i : Nat) cell, columns[i]? = some column → row[i]? = some cell →
    (∀ j, i < j → j < row.length → columns[j]? ≠ some column) →
    ∃ value, shown.get? column = some value ∧ cell.RoundedAs value

/-- Of every row of every result a column shows a cell, rounded. -/
def Catalogue.RoundsColumn (c : Catalogue) (column : String) : Prop :=
  ∀ result : ResultSet, List.Forall₂ (fun row shown => RoundsCell result.columns row column shown)
    result.rows (c.table result).rows

/-- In a statement for several types of pitches, rates are averaged and counts added up. -/
structure Catalogue.AveragesRates (c : Catalogue) (table : Table) (context : String)
    (intent : Intent) (metrics : List String) (s : Statement) : Prop where
  /-- Each column of each metric is shown as it is combined. -/
  shown : ∀ metric ∈ c.expandMetrics metrics context, ∀ column ∈ c.resolve metric context,
    ∃ text ∈ Output.texts s.outputs, c.CombinedAs table metric column text
  /-- The rows are sorted by the first column of a metric as it is combined. -/
  sorted : ∀ metric column, intent.orderBy = some metric →
    (c.resolve metric context).head? = some column →
    ∃ key, s.order = some key ∧ c.CombinedAs table metric column key.expr.sql
  /-- Behind the columns that tell rows apart, everything is added for a metric, under the name of
  a column of it and as it is combined. -/
  added : ∃ keys more, s.outputs = keys ++ more ∧
    Output.texts keys = (table.keyColumns intent.isMonthly).eraseDups ∧
    ∀ output ∈ more, ∃ metric ∈ c.expandMetrics metrics context,
      output.name ∈ c.resolve metric context ∧
        c.CombinedAs table metric output.name output.expr.sql
  /-- The columns of a rate are decimal, and what they show is rounded. -/
  decimal : ∀ metric, c.isRate metric = true → ∀ column ∈ c.resolve metric context,
    column ∈ c.decimalColumns.keys ∧ c.RoundsColumn column

/-- The text of a ratio that is rounded to three places. -/
def IsRoundedText (text : String) : Prop := ∃ ratio, text = "ROUND(" ++ ratio ++ ", 3)"

/-- An output shows a rate: it has the name of a column of a rate that is asked for, or it is a
ratio over single pitches. -/
def Catalogue.ShowsRate (c : Catalogue) (strategy : Strategy) (intent : Intent)
    (output : Output) : Prop :=
  match strategy with
  | .aggregated => ∃ metrics context, intent.metrics = some metrics ∧
      intent.contextKey = some context ∧ ∃ metric ∈ c.expandMetrics metrics context,
        c.isRate metric = true ∧ output.name ∈ c.resolve metric context
  | .eventLevel => IsRoundedText output.expr.sql

/-- Whether an expression is a count that is added up over the rows of a group. -/
def Expr.isCount : Expr → Bool
  | .total _ | .statistic (.count _) => true
  | _ => false

/-- Names of columns tell rates from everything else that is shown. -/
structure Catalogue.CountsApart (c : Catalogue) : Prop where
  /-- What tells the rows of a table apart has no decimals. -/
  identity : ∀ entry ∈ c.tables.entries, ∀ monthly, ∀ output ∈ entry.2.identity monthly,
    output.name ∉ c.decimalColumns.keys
  /-- Nor has a count of a table. -/
  counts : ∀ entry ∈ c.tables.entries, ∀ metric ∈ entry.2.metrics.entries,
    c.isRate metric.1 = false → ∀ column ∈ metric.2.columns, column ∉ c.decimalColumns.keys
  /-- Nor has what tells groups of pitches apart. -/
  groups : ∀ name ∈ ["name", "season", "month"], name ∉ c.decimalColumns.keys
  /-- Of the statistics over pitches the ratios have decimals. -/
  statistics : ∀ entry ∈ pitchStatistics,
    entry.1 ∈ c.decimalColumns.keys ↔ entry.2.isRate = true

instance (c : Catalogue) : Decidable c.CountsApart :=
  decidable_of_iff
    ((∀ entry ∈ c.tables.entries, ∀ monthly, ∀ output ∈ entry.2.identity monthly,
        output.name ∉ c.decimalColumns.keys) ∧
      (∀ entry ∈ c.tables.entries, ∀ metric ∈ entry.2.metrics.entries,
        c.isRate metric.1 = false → ∀ column ∈ metric.2.columns,
          column ∉ c.decimalColumns.keys) ∧
      (∀ name ∈ ["name", "season", "month"], name ∉ c.decimalColumns.keys) ∧
      ∀ entry ∈ pitchStatistics, entry.1 ∈ c.decimalColumns.keys ↔ entry.2.isRate = true)
    ⟨fun h => ⟨h.1, h.2.1, h.2.2.1, h.2.2.2⟩,
      fun h => ⟨h.identity, h.counts, h.groups, h.statistics⟩⟩

/-- A text begins with what it is opened by. -/
theorem head?_wrapped {opening text closing : String} {sign : Char}
    (h : opening.toList.head? = some sign) :
    (opening ++ text ++ closing).toList.head? = some sign := by
  rw [String.append_assoc, String.toList_append, List.head?_append, h, Option.some_or]

/-- The text of a rounded ratio begins with the name of a function. -/
theorem IsRoundedText.head? {text : String} (h : IsRoundedText text) :
    text.toList.head? = some 'R' := by
  obtain ⟨ratio, rfl⟩ := h
  exact head?_wrapped rfl

/-- The text of a tally begins with the name of another. -/
theorem Tally.head?_sql (tally : Tally) : tally.sql.toList.head? ≠ some 'R' := by
  cases tally with
  | all => decide
  | passing test =>
    have hopening : (passing test).sql.toList.head? = some 'S' := head?_wrapped rfl
    rw [hopening]
    decide
  | weighing weights =>
    have hopening : (weighing weights).sql.toList.head? = some 'S' := head?_wrapped rfl
    rw [hopening]
    decide

/-- A ratio is rounded. -/
theorem Ratio.isRoundedText_sql (ratio : Ratio) : IsRoundedText ratio.sql := by
  refine ⟨"CAST(" ++ Tally.sumSql ratio.above ++ " AS DOUBLE) / NULLIF("
    ++ Tally.sumSql ratio.below ++ ", 0)", ?_⟩
  have hopening : "ROUND(CAST(" = "ROUND(" ++ "CAST(" := rfl
  have hclosing : ", 0), 3)" = ", 0)" ++ ", 3)" := rfl
  rw [sql, hopening, hclosing]
  simp only [String.append_assoc]

/-- A statistic is a rate exactly if its text is that of a rounded ratio. -/
theorem Statistic.isRoundedText_sql_iff (statistic : Statistic) :
    IsRoundedText statistic.sql ↔ statistic.isRate = true := by
  cases statistic with
  | count tally =>
    have hnot : ¬ IsRoundedText tally.sql := fun h => tally.head?_sql h.head?
    exact iff_of_false hnot Bool.false_ne_true
  | rate ratio =>
    have hrounded : IsRoundedText (Statistic.rate ratio).sql := ratio.isRoundedText_sql
    exact iff_of_true hrounded rfl
  | sumOfRates first second =>
    have hopening : "ROUND(COALESCE(" = "ROUND(" ++ "COALESCE(" := rfl
    have hclosing : ", 0), 3)" = ", 0)" ++ ", 3)" := rfl
    have htext : (Statistic.sumOfRates first second).sql =
        "ROUND(" ++ ("COALESCE(" ++ first.sql ++ ", 0) + COALESCE(" ++ second.sql ++ ", 0)")
          ++ ", 3)" := by
      unfold sql
      rw [hopening, hclosing]
      simp only [String.append_assoc]
    exact iff_of_true ⟨_, htext⟩ rfl

namespace Catalogue

variable {c : Catalogue} {table : Table} {context : String} {intent : Intent}
  {metrics : List String} {defaultLimit : UInt32}

/-- A column of a metric is combined by the rule for the metric. -/
theorem combinedAs_collapsed (c : Catalogue) (table : Table) (metric column : String) :
    c.CombinedAs table metric column (c.collapsed table metric column).sql := by
  unfold collapsed
  cases hrate : c.isRate metric with
  | false => exact .added hrate
  | true =>
    cases hweight : table.weightCol with
    | none => exact .averaged hrate hweight
    | some weight => exact .weighted hrate hweight

/-- The columns of a rate are decimal. -/
theorem mem_decimalColumns_of_resolve {metric column : String} (hrate : c.isRate metric = true)
    (hcolumn : column ∈ c.resolve metric context) : column ∈ c.decimalColumns.keys := by
  cases ht : c.table? context with
  | none =>
    rw [resolve, descriptor?, ht] at hcolumn
    cases hcolumn
  | some table =>
    obtain ⟨descriptor, hd, hmem⟩ := (mem_resolve_iff ht).1 hcolumn
    exact mem_decimalColumns_iff.2
      ⟨metric, hrate, Or.inl ⟨context, table, descriptor, ht, hd, hmem⟩⟩

/-- What a decimal column shows is rounded. -/
theorem roundsColumn_of_mem {column : String} (h : column ∈ c.decimalColumns.keys) :
    c.RoundsColumn column := by
  intro result
  apply List.forall₂_map_right_iff.2
  apply List.forall₂_same.2
  intro row _
  constructor
  · intro value hvalue
    have hmem : (column, value) ∈ c.shownCells result.columns row := Dict.mem_of_get?_ofList hvalue
    obtain ⟨i, hi⟩ := List.mem_iff_getElem?.1 hmem
    obtain ⟨cell, hcolumn, hcell, rfl⟩ := getElem?_shownCells.1 hi
    exact ⟨i, cell, hcolumn, hcell, (c.shownAs_shownCell column cell).roundedAs h⟩
  · intro i cell hcolumn hcell hlast
    obtain ⟨value, hvalue, hshown⟩ :=
      (c.showsLast_shownRow result.columns row).cells i column cell hcolumn hcell hlast
    exact ⟨value, hvalue, hshown.roundedAs h⟩

/-- Where rows collapse, rates are averaged and counts added up. -/
theorem tableStatement_averages (hcollapse : table.collapses intent = true) :
    c.AveragesRates table context intent metrics
      (c.tableStatement defaultLimit intent metrics context table) := by
  have hexpr (metric column : String) :
      c.metricExpr table (table.collapses intent) metric column =
        c.collapsed table metric column := by
    rw [hcollapse, metricExpr, if_pos rfl]
  constructor
  case shown =>
    intro metric hmetric column hcolumn
    refine ⟨(c.collapsed table metric column).sql, ?_, c.combinedAs_collapsed table metric column⟩
    refine Output.mem_texts_addAll.2 (Or.inr ?_)
    refine List.mem_map.2 ⟨⟨c.collapsed table metric column, column⟩, ?_, rfl⟩
    exact mem_metricOutputs_iff.2 ⟨metric, hmetric, column, hcolumn,
      congrArg (Output.mk · column) (hexpr metric column).symm⟩
  case sorted =>
    intro metric column hasked hhead
    refine ⟨⟨c.collapsed table metric column, !c.isLowerBetter metric⟩, ?_,
      c.combinedAs_collapsed table metric column⟩
    rw [tableStatement, hasked, Option.bind_some, metricOrder, hhead, Option.map_some, hexpr]
    rfl
  case added =>
    obtain ⟨more, houtputs, hmore⟩ :=
      c.tableStatement_outputs defaultLimit intent metrics context table
    refine ⟨_, more, houtputs, ?_, fun output hmem => ?_⟩
    · rw [Output.texts_addAll_nil, Table.texts_identity]
    · obtain ⟨metric, hmetric, column, hcolumn, rfl⟩ := hmore output hmem
      refine ⟨metric, hmetric, hcolumn, ?_⟩
      rw [hexpr]
      exact c.combinedAs_collapsed table metric column
  case decimal =>
    intro metric hrate column hcolumn
    have hdecimal := mem_decimalColumns_of_resolve hrate hcolumn
    exact ⟨hdecimal, roundsColumn_of_mem hdecimal⟩

/-- Over a table, an output is decimal exactly if a rate that is asked for has a column of its name,
and then it is no count. -/
theorem CountsApart.tableOutput (h : c.CountsApart) (ht : c.table? context = some table)
    {output : Output}
    (hmem : output ∈ (c.tableStatement defaultLimit intent metrics context table).outputs) :
    (output.name ∈ c.decimalColumns.keys ↔ ∃ metric ∈ c.expandMetrics metrics context,
        c.isRate metric = true ∧ output.name ∈ c.resolve metric context) ∧
      (output.expr.isCount = true → output.name ∉ c.decimalColumns.keys) := by
  have hentry := Dict.get?_eq_some_iff.1 ht
  have hrates : (∃ metric ∈ c.expandMetrics metrics context,
      c.isRate metric = true ∧ output.name ∈ c.resolve metric context) →
        output.name ∈ c.decimalColumns.keys := by
    rintro ⟨metric, -, hrate, hname⟩
    exact mem_decimalColumns_of_resolve hrate hname
  rcases Output.mem_addAll hmem with hidentity | hmetric
  · have hidentity := (Output.mem_addAll hidentity).resolve_left List.not_mem_nil
    have hname := h.identity _ hentry intent.isMonthly output hidentity
    exact ⟨⟨fun hdecimal => absurd hdecimal hname, hrates⟩, fun _ => hname⟩
  · obtain ⟨metric, hasked, column, hcolumn, rfl⟩ := mem_metricOutputs_iff.1 hmetric
    cases hrate : c.isRate metric with
    | true =>
      have hshown : (c.metricExpr table (table.collapses intent) metric column).isCount =
          false := by
        rw [metricExpr, collapsed, if_pos hrate]
        cases table.collapses intent <;> cases table.weightCol <;> rfl
      refine ⟨⟨fun _ => ⟨metric, hasked, hrate, hcolumn⟩, hrates⟩, fun hcount => ?_⟩
      exact absurd (hshown.symm.trans hcount) Bool.false_ne_true
    | false =>
      obtain ⟨descriptor, hd, hlisted⟩ := (mem_resolve_iff ht).1 hcolumn
      have hname := h.counts _ hentry _ (Dict.get?_eq_some_iff.1 hd) hrate column hlisted
      exact ⟨⟨fun hdecimal => absurd hdecimal hname, hrates⟩, fun _ => hname⟩

/-- Of the statistics over pitches, the decimal ones are the ratios, and the others are counts. -/
theorem CountsApart.pitchOutput (h : c.CountsApart) {output : Output}
    (hmem : output ∈ pitchOutputs) :
    (output.name ∈ c.decimalColumns.keys ↔ IsRoundedText output.expr.sql) ∧
      (output.expr.isCount = true → output.name ∉ c.decimalColumns.keys) := by
  obtain ⟨⟨name, statistic⟩, hlisted, rfl⟩ := List.mem_map.1 hmem
  have hname := h.statistics (name, statistic) hlisted
  refine ⟨hname.trans statistic.isRoundedText_sql_iff.symm, fun hcount hdecimal => ?_⟩
  have hrate : statistic.isRate = true := hname.1 hdecimal
  cases statistic with
  | count => cases hrate
  | rate => cases hcount
  | sumOfRates => cases hcount

/-- The names of the built-in catalogue tell rates from counts. -/
theorem builtIn_countsApart : builtIn.CountsApart := by
  decide +kernel

/-- What tells groups of pitches apart is no ratio, and has no decimals. -/
theorem builtIn_pitchIdentity {queryType : QueryType} {output : Output}
    (hmem : output ∈ BuiltIn.master.identity queryType intent) :
    ¬ IsRoundedText output.expr.sql ∧ output.name ∉ builtIn.decimalColumns.keys := by
  have hkeys : ∀ subject ∈ [BuiltIn.master.pitcherCol, BuiltIn.master.batterCol],
      ∀ key ∈ ([⟨.column subject, "name"⟩, ⟨.column BuiltIn.master.seasonCol, "season"⟩,
        ⟨.monthOf BuiltIn.master.dateCol, "month"⟩] : List Output),
      key.expr.sql.toList.head? ≠ some 'R' ∧ key.name ∈ ["name", "season", "month"] := by
    decide +kernel
  have hsubject : BuiltIn.master.subjectCol queryType ∈
      [BuiltIn.master.pitcherCol, BuiltIn.master.batterCol] := by
    unfold MasterTable.subjectCol
    split <;> simp
  have hshown := (BuiltIn.master.identity_sublist queryType intent).mem
    (List.mem_append_left pitchOutputs hmem)
  have hplain := isAggregate_of_mem_identity hmem
  rcases List.mem_append.1 hshown with hkey | hstatistic
  · obtain ⟨htext, hname⟩ := hkeys _ hsubject output hkey
    exact ⟨fun hratio => htext hratio.head?, builtIn_countsApart.groups _ hname⟩
  · rw [isAggregate_of_mem_pitchOutputs hstatistic] at hplain
    cases hplain

/-- In a query over a table for several types of pitches, each rate is averaged and rounded when it
is shown, and each count is added up, in what is shown and in what is sorted by. In the built-in
catalogue an output has decimals exactly where it shows a rate, whatever is asked for, and no count
that is added up has any. -/
theorem compile_averages_and_rounds (c : Catalogue) (strategy : Strategy) (defaultLimit : UInt32)
    (intent : Intent) (q : Query) (h : c.compile strategy defaultLimit intent = .ok q) :
    ∃ s, c.statement strategy defaultLimit intent = .ok s ∧ q = s.query ∧
      q.sql = s.clauses.text ∧
      (strategy = .aggregated → 1 < intent.pitchTypes.length → ∃ metrics context table,
        intent.metrics = some metrics ∧ intent.contextKey = some context ∧
          c.table? context = some table ∧ c.AveragesRates table context intent metrics s) ∧
      (c = builtIn → ∀ output ∈ s.outputs,
        (output.name ∈ c.decimalColumns.keys ↔ c.ShowsRate strategy intent output) ∧
          (output.expr.isCount = true → output.name ∉ c.decimalColumns.keys)) := by
  obtain ⟨s, hs, rfl⟩ := compile_eq_ok_iff.1 h
  refine ⟨s, hs, rfl, s.query_sql, ?_⟩
  cases strategy with
  | aggregated =>
    obtain ⟨metrics, context, table, hm, hk, ht, -, hcols, rfl⟩ := aggregated_eq_ok_iff.1 hs
    constructor
    · intro _ hseveral
      have hcollapse := (Table.collapses_iff hcols).2 hseveral
      exact ⟨metrics, context, table, hm, hk, ht, tableStatement_averages hcollapse⟩
    · rintro rfl output hmem
      obtain ⟨hdecimal, hcount⟩ := builtIn_countsApart.tableOutput ht hmem
      refine ⟨hdecimal.trans ⟨fun hrate => ⟨metrics, context, hm, hk, hrate⟩, ?_⟩, hcount⟩
      rintro ⟨metrics', context', hm', hk', hrate⟩
      obtain rfl := Option.some.inj (hm.symm.trans hm')
      obtain rfl := Option.some.inj (hk.symm.trans hk')
      exact hrate
  | eventLevel =>
    obtain ⟨queryType, master, -, hmaster, rfl⟩ := eventLevel_eq_ok_iff.1 hs
    refine ⟨fun he => absurd he (by decide), ?_⟩
    rintro rfl output hmem
    obtain rfl := Option.some.inj hmaster
    rcases List.mem_append.1 ((Output.mem_addAll hmem).resolve_left List.not_mem_nil) with
      hkey | hstatistic
    · obtain ⟨hplain, hname⟩ := builtIn_pitchIdentity hkey
      exact ⟨iff_of_false hname hplain, fun _ => hname⟩
    · exact builtIn_countsApart.pitchOutput hstatistic

end Catalogue

/-- Home runs and misses against two types of pitches, the most misses first. -/
def Intent.missesAgainstTwo : Intent where
  queryType := some .battingSplits
  split := some .pitchType
  metrics := some ["homerun", "whiff_rate"]
  pitchTypes := ["Slider", "Cutter"]
  orderBy := some "whiff_rate"

/-- The home runs are added up and have no decimals, the misses are averaged and rounded. -/
theorem Catalogue.compile_missesAgainstTwo :
    ∃ (q : Query) (s : Statement),
      builtIn.compile .aggregated 10 .missesAgainstTwo = .ok q ∧ q = s.query ∧
      "SUM(hr)" ∈ Output.texts s.outputs ∧ "hr" ∉ builtIn.decimalColumns.keys ∧
      "SUM(whiff_pct * pa) / NULLIF(SUM(pa), 0)" ∈ Output.texts s.outputs ∧
      builtIn.RoundsColumn "whiff_pct" ∧
      ∃ key, s.order = some key ∧ key.expr.sql = "SUM(whiff_pct * pa) / NULLIF(SUM(pa), 0)" := by
  have hfacts : (builtIn.statement .aggregated 10 .missesAgainstTwo).toOption.map
        (fun s => decide (⟨.total "hr", "hr"⟩ ∈ s.outputs)) = some true ∧
      (builtIn.table? "batting_splits_pitch_type").map Table.weightCol = some (some "pa") ∧
      builtIn.isRate "whiff_rate" = true ∧
      builtIn.resolve "whiff_rate" "batting_splits_pitch_type" = ["whiff_pct"] := by
    decide +kernel
  obtain ⟨hhomeRuns, hweight, hrate, hresolve⟩ := hfacts
  obtain ⟨s, hs, hhomeRuns⟩ := exists_of_toOption_map hhomeRuns
  have hq : builtIn.compile .aggregated 10 .missesAgainstTwo = .ok s.query :=
    compile_eq_ok_iff.2 ⟨s, hs, rfl⟩
  obtain ⟨s', hs', -, -, hcollapsed, happart⟩ :=
    compile_averages_and_rounds builtIn .aggregated 10 .missesAgainstTwo s.query hq
  obtain rfl : s = s' := Except.ok.inj (hs.symm.trans hs')
  obtain ⟨metrics, context, table, hm, hk, ht, haverages⟩ := hcollapsed rfl (by decide)
  obtain rfl : ["homerun", "whiff_rate"] = metrics := Option.some.inj hm
  obtain rfl : "batting_splits_pitch_type" = context := Option.some.inj hk
  rw [ht] at hweight
  have hweight : table.weightCol = some "pa" := Option.some.inj hweight
  have hmeans {text : String} (htext : builtIn.CombinedAs table "whiff_rate" "whiff_pct" text) :
      text = "SUM(whiff_pct * pa) / NULLIF(SUM(pa), 0)" := by
    cases htext with
    | weighted _ hw =>
      obtain rfl := Option.some.inj (hweight.symm.trans hw)
      rfl
    | averaged _ hw => cases hweight.symm.trans hw
    | added hcount => cases hrate.symm.trans hcount
  have hcolumn : "whiff_pct" ∈ builtIn.resolve "whiff_rate" "batting_splits_pitch_type" :=
    hresolve ▸ List.mem_singleton_self _
  have hasked : "whiff_rate" ∈ builtIn.expandMetrics ["homerun", "whiff_rate"]
      "batting_splits_pitch_type" := by
    rw [expandMetrics, if_neg (by decide)]
    decide
  have hshown := of_decide_eq_true hhomeRuns
  obtain ⟨text, hmem, htext⟩ := haverages.shown _ hasked _ hcolumn
  obtain ⟨key, hkey, hsorted⟩ := haverages.sorted "whiff_rate" "whiff_pct" rfl
    (hresolve ▸ rfl)
  exact ⟨s.query, s, hq, rfl, List.mem_map_of_mem hshown, (happart rfl _ hshown).2 rfl,
    hmeans htext ▸ hmem, (haverages.decimal _ hrate _ hcolumn).2, key, hkey, hmeans hsorted⟩

end Scorebook
