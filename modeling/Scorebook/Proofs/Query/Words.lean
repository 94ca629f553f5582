import Scorebook.Proofs.Query.Compile
import Scorebook.Proofs.Query.Outputs

/-!
# Where the words of a query come from

A statement is written with the names of tables, columns and outputs, and with the outcomes that its
statistics count. Every such word stands in the catalogue or is fixed for all catalogues; none comes
from an intent.
-/

namespace Scorebook

/-- The names of a table and of its columns. -/
def Table.identifiers (table : Table) : List String :=
  table.source :: table.nameCol ::
    [table.yearCol, table.monthCol, table.teamCol, table.weightCol, table.filters.inning,
      table.filters.strikes, table.filters.balls, table.filters.pitcherThrows,
      table.filters.pitchType, table.filters.gameScore].filterMap id
    ++ table.identityCols ++ table.metrics.values.flatMap Descriptor.columns

/-- The names of a table of single pitches, of its columns and of the outputs to sort by. -/
def MasterTable.identifiers (master : MasterTable) : List String :=
  [master.source, master.batterCol, master.pitcherCol, master.seasonCol, master.dateCol]
    ++ master.columns.values

/-- The names of all tables and columns of a catalogue. -/
def Catalogue.identifiers (c : Catalogue) : List String :=
  c.tables.values.flatMap Table.identifiers ++ c.master.toList.flatMap MasterTable.identifiers

/-- The texts that a test on a pitch quotes. -/
def PitchTest.words : PitchTest → List String
  | .outcomeIn outcomes => outcomes
  | .outcomeNotIn outcomes => outcomes
  | .outcomeIs outcome => [outcome]
  | .describedAs descriptions => descriptions
  | _ => []

/-- The texts that a tally quotes. -/
def Tally.words : Tally → List String
  | .all => []
  | .passing test => test.words
  | .weighing weights => weights.map Prod.fst

/-- The texts that a ratio quotes. -/
def Ratio.words (ratio : Ratio) : List String := (ratio.above ++ ratio.below).flatMap Tally.words

/-- The texts that a statistic quotes. -/
def Statistic.words : Statistic → List String
  | .count tally => tally.words
  | .rate ratio => ratio.words
  | .sumOfRates first second => first.words ++ second.words

/-- The words that no catalogue chooses: names of outputs, columns that all single pitches have, and
the statistics over pitches with the outcomes that they count. -/
def fixedWords : List String :=
  ["name", "season", "month", "team", "inning", "strikes", "balls", "p_throws", "pitch_name"]
    ++ pitchStatistics.flatMap fun (name, statistic) => name :: statistic.words

/-- The columns that an expression is made of, and the texts that it quotes. -/
def Expr.words : Expr → List String
  | .column name => [name]
  | .total col => [col]
  | .mean col => [col]
  | .weightedMean col weight => [col, weight]
  | .monthOf date => [date]
  | .statistic s => s.words

/-- The name of an output and the words of its expression. -/
def Output.words (output : Output) : List String := output.name :: output.expr.words

/-- The column that a condition is about. -/
def Condition.words : Condition → List String
  | .meets _ column => [column]
  | _ => []

/-- The words of a statement: its table, its columns, its outputs and the texts that it quotes. -/
def Statement.words (s : Statement) : List String :=
  s.source :: s.outputs.flatMap Output.words ++ s.conditions.flatMap Condition.words
    ++ s.grouping.flatMap Expr.words ++ s.order.toList.flatMap (·.expr.words)

namespace Table

variable {table : Table}

/-- A column that is compared with a placeholder belongs to the table. -/
theorem column?_mem_identifiers {slot : Slot} {column : String}
    (h : table.column? slot = some column) : column ∈ table.identifiers := by
  cases slot <;> simp only [column?, Option.some.injEq, reduceCtorEq] at h <;>
    simp [identifiers, h]

/-- What tells the rows apart are columns of the table. -/
theorem identity_words {monthly : Bool} {output : Output} (h : output ∈ table.identity monthly) :
    output.words ⊆ table.identifiers ++ fixedWords := by
  rcases mem_identity_cases h with rfl | ⟨month, hm, rfl⟩ | ⟨year, hy, rfl⟩ | ⟨team, ht, rfl⟩ |
    ⟨column, hc, rfl⟩
  · simp [Output.words, Expr.words, identifiers, fixedWords]
  · simp [Output.words, Expr.words, identifiers, fixedWords, hm]
  · simp [Output.words, Expr.words, identifiers, fixedWords, hy]
  · simp [Output.words, Expr.words, identifiers, fixedWords, ht]
  · simp [Output.plain, Output.words, Expr.words, identifiers, hc]

/-- Rows are sorted by columns of the table unless the intent says otherwise. -/
theorem defaultOrder_words {monthly : Bool} {key : SortKey}
    (h : table.defaultOrder monthly = some key) : key.expr.words ⊆ table.identifiers := by
  rcases defaultOrder_cases h with ⟨month, -, hm, rfl⟩ | ⟨year, -, hy, rfl⟩
  · simp [Expr.words, identifiers, hm]
  · simp [Expr.words, identifiers, hy]

end Table

/-- The column of the player is one of the master table. -/
theorem MasterTable.subjectCol_mem_identifiers (master : MasterTable) (queryType : QueryType) :
    master.subjectCol queryType ∈ master.identifiers := by
  unfold subjectCol
  split <;> simp [identifiers]

namespace Catalogue

variable {c : Catalogue} {table : Table} {context : String}

/-- The columns of a metric belong to the table of the context. -/
theorem resolve_subset_identifiers (ht : c.table? context = some table) (metric : String) :
    c.resolve metric context ⊆ table.identifiers := by
  intro column hc
  obtain ⟨descriptor, hd, hcolumn⟩ := (mem_resolve_iff ht).1 hc
  exact List.mem_append_right _
    (List.mem_flatMap.2 ⟨descriptor, Dict.mem_values_of_get? hd, hcolumn⟩)

/-- A metric is made of its column, and of the weights of the table. -/
theorem metricExpr_words {collapse : Bool} {metric column : String}
    (hc : column ∈ table.identifiers) :
    (c.metricExpr table collapse metric column).words ⊆ table.identifiers := by
  unfold metricExpr collapsed
  split
  · split
    · split
      · rename_i weight hw
        have hmem : weight ∈ table.identifiers := by simp [Table.identifiers, hw]
        simp [Expr.words, hc, hmem]
      · simp [Expr.words, hc]
    · simp [Expr.words, hc]
  · simp [Expr.words, hc]

/-- The outputs of metrics are made of columns of the table. -/
theorem metricOutputs_words (ht : c.table? context = some table) {collapse : Bool}
    {metrics : List String} {output : Output}
    (h : output ∈ c.metricOutputs table context collapse metrics) :
    output.words ⊆ table.identifiers := by
  obtain ⟨metric, -, column, hc, rfl⟩ := mem_metricOutputs_iff.1 h
  have hcol := resolve_subset_identifiers ht metric hc
  exact List.cons_subset.2 ⟨hcol, metricExpr_words hcol⟩

/-- The sort key of a metric is made of columns of the table. -/
theorem metricOrder_words (ht : c.table? context = some table) {collapse : Bool}
    {metric : String} {key : SortKey}
    (h : c.metricOrder table context collapse metric = some key) :
    key.expr.words ⊆ table.identifiers := by
  obtain ⟨column, hc, rfl⟩ := Option.map_eq_some_iff.1 h
  exact metricExpr_words (resolve_subset_identifiers ht metric (List.mem_of_head? hc))

/-- The names of a table stand in the catalogue. -/
theorem table_identifiers_subset (ht : c.table? context = some table) :
    table.identifiers ⊆ c.identifiers := fun _ hn =>
  List.mem_append_left _ (List.mem_flatMap.2 ⟨table, Dict.mem_values_of_get? ht, hn⟩)

/-- The names of the master table stand in the catalogue. -/
theorem master_identifiers_subset {master : MasterTable} (hm : c.master = some master) :
    master.identifiers ⊆ c.identifiers := fun _ hn =>
  List.mem_append_right _ (List.mem_flatMap.2 ⟨master, by simp [hm], hn⟩)

/-- The groups of single pitches are told apart by columns of the master table. -/
theorem identity_words {master : MasterTable} {queryType : QueryType} {intent : Intent}
    {output : Output} (h : output ∈ master.identity queryType intent) :
    output.words ⊆ master.identifiers ++ fixedWords := by
  have hsubject := master.subjectCol_mem_identifiers queryType
  simp only [MasterTable.identity, List.cons_append, List.mem_cons, List.mem_append] at h
  rcases h with rfl | hs | hm
  · simp [Output.words, Expr.words, fixedWords, hsubject]
  · split at hs
    · obtain rfl := List.mem_singleton.1 hs
      simp [Output.words, Expr.words, fixedWords, MasterTable.identifiers]
    · cases hs
  · split at hm
    · obtain rfl := List.mem_singleton.1 hm
      simp [Output.words, Expr.words, fixedWords, MasterTable.identifiers]
    · cases hm

/-- The statistics over pitches are made of no names of the catalogue. -/
theorem pitchOutputs_words {output : Output} (h : output ∈ pitchOutputs) :
    output.words ⊆ fixedWords := by
  obtain ⟨⟨name, statistic⟩, hs, rfl⟩ := List.mem_map.1 h
  have hname : name ∈ fixedWords :=
    List.mem_append_right _ (List.mem_flatMap.2 ⟨(name, statistic), hs, List.mem_cons_self⟩)
  exact List.cons_subset.2 ⟨hname, fun word hw => List.mem_append_right _
    (List.mem_flatMap.2 ⟨(name, statistic), hs, List.mem_cons_of_mem _ hw⟩)⟩

/-- A column of single pitches is one of the master table or one that all of them have. -/
theorem pitchColumn_mem_identifiers {master : MasterTable} {queryType : QueryType} {slot : Slot}
    {column : String} (h : master.column queryType slot = some column) :
    column ∈ master.identifiers ++ fixedWords := by
  have hsubject := master.subjectCol_mem_identifiers queryType
  cases slot <;> simp only [MasterTable.column, Option.some.injEq, reduceCtorEq] at h <;>
    subst h
  · exact List.mem_append_left _ hsubject
  · simp [MasterTable.identifiers]
  all_goals exact List.mem_append_right _ (by simp [fixedWords])

/-- A statement over a table names nothing but the table, its columns and the fixed outputs. -/
theorem tableStatement_words {d : UInt32} {intent : Intent} {metrics : List String}
    (ht : c.table? context = some table) :
    (c.tableStatement d intent metrics context table).words ⊆
      table.identifiers ++ fixedWords := by
  have hidentity {output : Output}
      (h : output ∈ Output.addAll [] (table.identity intent.isMonthly)) :
      output.words ⊆ table.identifiers ++ fixedWords :=
    Table.identity_words ((Output.mem_addAll h).resolve_left List.not_mem_nil)
  intro name hname
  simp only [Statement.words, tableStatement, List.cons_append, List.mem_cons,
    List.mem_append, List.mem_flatMap, Option.mem_toList] at hname
  rcases hname with rfl | ((⟨output, ho, hn⟩ | ⟨condition, hk, hn⟩) | ⟨expr, he, hn⟩) |
    ⟨key, hk, hn⟩
  · simp [Table.identifiers]
  · rcases Output.mem_addAll ho with ho | ho
    · exact hidentity ho hn
    · exact List.mem_append_left _ (metricOutputs_words ht ho hn)
  · obtain ⟨value, -, hv⟩ := List.mem_filterMap.1 hk
    obtain ⟨column, hc, rfl⟩ := Option.map_eq_some_iff.1 hv
    obtain rfl := List.mem_singleton.1 hn
    exact List.mem_append_left _ (Table.column?_mem_identifiers hc)
  · split at he
    · obtain ⟨output, ho, rfl⟩ := List.mem_map.1 he
      exact hidentity ho (List.mem_cons_of_mem _ hn)
    · cases he
  · rcases Option.or_eq_some_iff.1 hk with hk | ⟨-, hk⟩
    · obtain ⟨metric, -, hk⟩ := Option.bind_eq_some_iff.1 hk
      exact List.mem_append_left _ (metricOrder_words ht hk hn)
    · exact List.mem_append_left _ (Table.defaultOrder_words hk hn)

/-- A statement over single pitches names nothing but the master table, its columns and the fixed
names. -/
theorem pitchStatement_words {d : UInt32} {intent : Intent} {queryType : QueryType}
    {master : MasterTable} :
    (c.pitchStatement d intent queryType master).words ⊆
      master.identifiers ++ fixedWords := by
  intro name hname
  simp only [Statement.words, pitchStatement, List.cons_append, List.mem_cons,
    List.mem_append, List.mem_flatMap, Option.mem_toList] at hname
  rcases hname with rfl | ((⟨output, ho, hn⟩ | ⟨condition, hk, hn⟩) | ⟨expr, he, hn⟩) |
    ⟨key, hk, hn⟩
  · simp [MasterTable.identifiers]
  · rcases List.mem_append.1 ((Output.mem_addAll ho).resolve_left List.not_mem_nil) with ho | ho
    · exact identity_words ho hn
    · exact List.mem_append_right _ (pitchOutputs_words ho hn)
  · simp only [MasterTable.conditions, List.mem_append, List.mem_cons, List.not_mem_nil, or_false,
      List.mem_filterMap, Option.mem_toList, Option.map_eq_some_iff] at hk
    rcases hk with (((rfl | rfl) | ⟨value, -, column, hc, rfl⟩) | ⟨runners, -, rfl⟩) |
      ⟨bucket, -, rfl⟩
    · cases hn
    · cases hn
    · obtain rfl := List.mem_singleton.1 hn
      exact pitchColumn_mem_identifiers hc
    · cases hn
    · cases hn
  · obtain ⟨output, ho, rfl⟩ := List.mem_map.1 he
    exact identity_words ho (List.mem_cons_of_mem _ hn)
  · rcases Option.or_eq_some_iff.1 hk with hk | ⟨-, hk⟩
    · obtain ⟨metric, -, hk⟩ := Option.bind_eq_some_iff.1 hk
      obtain ⟨output, ho, rfl⟩ := Option.map_eq_some_iff.1 hk
      obtain rfl := List.mem_singleton.1 hn
      exact List.mem_append_left _ (List.mem_append_right _ (Dict.mem_values_of_get? ho))
    · obtain rfl := Option.some.inj hk
      unfold MasterTable.defaultOrder at hn
      split at hn
      · obtain rfl := List.mem_singleton.1 hn
        simp [fixedWords]
      · obtain rfl := List.mem_singleton.1 hn
        simp [fixedWords, pitchStatistics]

/-- The names in a statement stand in the catalogue or are fixed. -/
theorem statement_words {strategy : Strategy} {d : UInt32} {intent : Intent} {s : Statement}
    (h : c.statement strategy d intent = .ok s) :
    s.words ⊆ c.identifiers ++ fixedWords := by
  have hmono {names : List String} (hn : names ⊆ c.identifiers) :
      names ++ fixedWords ⊆ c.identifiers ++ fixedWords :=
    List.append_subset.2 ⟨fun _ hm => List.mem_append_left _ (hn hm), fun _ hm =>
      List.mem_append_right _ hm⟩
  cases strategy with
  | aggregated =>
    obtain ⟨metrics, context, table, -, -, ht, -, -, rfl⟩ := aggregated_eq_ok_iff.1 h
    exact List.Subset.trans (tableStatement_words ht) (hmono (table_identifiers_subset ht))
  | eventLevel =>
    obtain ⟨queryType, master, -, hm, rfl⟩ := eventLevel_eq_ok_iff.1 h
    exact List.Subset.trans pitchStatement_words (hmono (master_identifiers_subset hm))

end Catalogue

end Scorebook
