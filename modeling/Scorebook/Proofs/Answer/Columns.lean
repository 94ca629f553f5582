import Mathlib.Data.List.Forall2
import Mathlib.Data.List.Pairwise
import Scorebook.Proofs.Answer.Cells
import Scorebook.Proofs.Query.Grouping

/-!
# Every column of an answer has a name of its own

Outputs are told apart by their expressions, but the cells of a row are kept under the names of the
columns. In the built-in catalogue this makes no difference: whatever is asked for, no two columns
of a query have one name, so every row is shown with all of its cells.
-/

namespace Scorebook

/-- The names of the columns that a statement shows. A name that is the text of its expression is
not written. -/
def Statement.columns (s : Statement) : List String := s.outputs.map Output.name

/-- The columns that a table may show have names of their own, unless they have one expression. -/
structure Catalogue.NamesApart (c : Catalogue) (table : Table) : Prop where
  /-- What tells rows apart has names of its own. -/
  identity : ∀ monthly, ((table.identity monthly).map Output.name).Nodup
  /-- No metric has a column of such a name. -/
  metrics : ∀ monthly, ∀ output ∈ table.identity monthly, ∀ entry ∈ table.metrics.entries,
    output.name ∉ entry.2.columns
  /-- Metrics that share a column are both rates or both counts. -/
  rates : table.metrics.entries.Pairwise fun e f => ∀ column ∈ e.2.columns,
    column ∈ f.2.columns → c.isRate e.1 = c.isRate f.1

instance (c : Catalogue) (table : Table) : Decidable (c.NamesApart table) :=
  decidable_of_iff
    ((∀ monthly, ((table.identity monthly).map Output.name).Nodup) ∧
      (∀ monthly, ∀ output ∈ table.identity monthly, ∀ entry ∈ table.metrics.entries,
        output.name ∉ entry.2.columns) ∧
      table.metrics.entries.Pairwise fun e f => ∀ column ∈ e.2.columns,
        column ∈ f.2.columns → c.isRate e.1 = c.isRate f.1)
    ⟨fun h => ⟨h.1, h.2.1, h.2.2⟩, fun h => ⟨h.identity, h.metrics, h.rates⟩⟩

/-- A row is shown with each of its cells once, under the name of the column. -/
structure Catalogue.ShowsRow (c : Catalogue) (columns : List String) (row : List Json)
    (shown : Dict Json) : Prop where
  /-- There is one entry for each column, and no other. -/
  keys : shown.keys.Perm columns
  /-- The entry of a column is its cell as it is shown. -/
  cells : ∀ (i : Nat) column cell, columns[i]? = some column → row[i]? = some cell →
    ∃ value, shown.get? column = some value ∧ c.ShownAs column cell value

namespace Catalogue

variable {c : Catalogue} {table : Table} {context : String}

/-- Metrics that share a column have one expression for it. -/
theorem NamesApart.metricExpr_eq (h : c.NamesApart table) {collapse : Bool}
    {metric other column : String} {descriptor descriptor' : Descriptor}
    (hm : table.metrics.get? metric = some descriptor)
    (ho : table.metrics.get? other = some descriptor')
    (hcolumn : column ∈ descriptor.columns) (hcolumn' : column ∈ descriptor'.columns) :
    c.metricExpr table collapse metric column = c.metricExpr table collapse other column := by
  have hsymm : Std.Symm fun e f : String × Descriptor => ∀ column ∈ e.2.columns,
      column ∈ f.2.columns → c.isRate e.1 = c.isRate f.1 :=
    ⟨fun _ _ hef column hf he => (hef column he hf).symm⟩
  have hall := h.rates.forall_of_forall fun _ _ _ _ _ => rfl
  have hrate : c.isRate metric = c.isRate other :=
    hall (Dict.get?_eq_some_iff.1 hm) (Dict.get?_eq_some_iff.1 ho) column hcolumn hcolumn'
  unfold metricExpr collapsed
  rw [hrate]

/-- A table whose columns have names of their own shows no name twice. -/
theorem NamesApart.columns_nodup (h : c.NamesApart table) (ht : c.table? context = some table)
    {d : UInt32} {intent : Intent} {metrics : List String} :
    (c.tableStatement d intent metrics context table).columns.Nodup := by
  have hmixed {a b : Output} (ha : a ∈ table.identity intent.isMonthly)
      (hb : b ∈ c.metricOutputs table context (table.collapses intent) metrics) :
      a.name ≠ b.name := by
    obtain ⟨metric, -, column, hcolumn, rfl⟩ := mem_metricOutputs_iff.1 hb
    obtain ⟨descriptor, hm, hmem⟩ := (mem_resolve_iff ht).1 hcolumn
    intro hname
    apply h.metrics intent.isMonthly a ha (metric, descriptor) (Dict.get?_eq_some_iff.1 hm)
    exact hname ▸ hmem
  have hmetric {a b : Output}
      (ha : a ∈ c.metricOutputs table context (table.collapses intent) metrics)
      (hb : b ∈ c.metricOutputs table context (table.collapses intent) metrics)
      (hname : a.name = b.name) : a.expr = b.expr := by
    obtain ⟨metric, -, column, hcolumn, rfl⟩ := mem_metricOutputs_iff.1 ha
    obtain ⟨other, -, column', hcolumn', rfl⟩ := mem_metricOutputs_iff.1 hb
    obtain rfl : column = column' := hname
    obtain ⟨descriptor, hm, hmem⟩ := (mem_resolve_iff ht).1 hcolumn
    obtain ⟨descriptor', ho, hmem'⟩ := (mem_resolve_iff ht).1 hcolumn'
    exact h.metricExpr_eq hm ho hmem hmem'
  rw [Statement.columns, tableStatement, ← Output.addAll_append]
  apply Output.names_addAll_nil_nodup
  intro a ha b hb hname
  rcases List.mem_append.1 ha with ha | ha <;> rcases List.mem_append.1 hb with hb | hb
  · rw [List.inj_on_of_nodup_map (h.identity intent.isMonthly) ha hb hname]
  · exact absurd hname (hmixed ha hb)
  · exact absurd hname.symm (hmixed hb ha)
  · rw [hmetric ha hb hname]

/-- The tables of the built-in catalogue have columns with names of their own. -/
theorem builtIn_namesApart (ht : builtIn.table? context = some table) :
    builtIn.NamesApart table :=
  Dict.of_get?_ofList (by decide +kernel) ht

/-- Single pitches are shown without a name twice. -/
theorem builtIn_pitchColumns {d : UInt32} {intent : Intent} {queryType : QueryType} :
    (builtIn.pitchStatement d intent queryType BuiltIn.master).columns.Nodup := by
  have hnames := (BuiltIn.master.identity_sublist queryType intent).map Output.name
  rw [Statement.columns, builtIn_pitchOutputs]
  exact (builtIn_pitchColumns_nodup queryType).2.sublist hnames

/-- No query to the built-in catalogue shows a name twice. -/
theorem builtIn_columns_nodup {strategy : Strategy} {d : UInt32} {intent : Intent} {s : Statement}
    (h : builtIn.statement strategy d intent = .ok s) : s.columns.Nodup := by
  cases strategy with
  | aggregated =>
    obtain ⟨metrics, context, table, -, -, ht, -, -, rfl⟩ := aggregated_eq_ok_iff.1 h
    exact (builtIn_namesApart ht).columns_nodup ht
  | eventLevel =>
    obtain ⟨queryType, master, -, hmaster, rfl⟩ := eventLevel_eq_ok_iff.1 h
    obtain rfl := Option.some.inj hmaster
    exact builtIn_pitchColumns

/-- Under columns of different names, a row is shown with all of its cells. -/
theorem showsRow_shownRow {columns : List String} {row : List Json} (hnodup : columns.Nodup)
    (hlength : row.length = columns.length) :
    c.ShowsRow columns row (c.shownRow columns row) := by
  let entries := (columns.zip row).map fun e => (e.1, c.shownCell e.1 e.2)
  have hkeys : entries.map Prod.fst = columns := by
    rw [List.map_map]
    exact List.map_fst_zip (Nat.le_of_eq hlength.symm)
  have hnodup' : (entries.map Prod.fst).Nodup := hkeys ▸ hnodup
  constructor
  · have hperm := Dict.keys_ofList_perm hnodup'
    rw [hkeys] at hperm
    exact hperm
  · intro i column cell hcolumn hcell
    have hzip : (columns.zip row)[i]? = some (column, cell) :=
      List.getElem?_zip_eq_some.2 ⟨hcolumn, hcell⟩
    refine ⟨c.shownCell column cell, ?_, c.shownAs_shownCell column cell⟩
    apply (Dict.get?_ofList_iff (Dict.singleValued_of_nodup hnodup')).2
    exact List.mem_map.2 ⟨(column, cell), List.mem_of_getElem? hzip, rfl⟩

/-- So are all rows of a result. -/
theorem showsRows_table {result : ResultSet} (hnodup : result.columns.Nodup)
    (hlength : ∀ row ∈ result.rows, row.length = result.columns.length) :
    List.Forall₂ (c.ShowsRow result.columns) result.rows (c.table result).rows := by
  apply List.forall₂_map_right_iff.2
  apply List.forall₂_same.2
  intro row hrow
  exact showsRow_shownRow hnodup (hlength row hrow)

/-- Whatever is asked of the built-in catalogue, the columns of the query have different names. So a
result with these columns and with rows of their number is shown row by row with all of its cells,
each under the name of its column. -/
theorem builtIn_shows_every_cell (strategy : Strategy) (defaultLimit : UInt32) (intent : Intent)
    (q : Query) (h : builtIn.compile strategy defaultLimit intent = .ok q) :
    ∃ s, builtIn.statement strategy defaultLimit intent = .ok s ∧ q = s.query ∧
      q.sql = s.clauses.text ∧ s.columns.Nodup ∧
      ∀ result : ResultSet, result.columns = s.columns →
        (∀ row ∈ result.rows, row.length = s.columns.length) →
        List.Forall₂ (builtIn.ShowsRow s.columns) result.rows (builtIn.table result).rows := by
  obtain ⟨s, hs, rfl⟩ := compile_eq_ok_iff.1 h
  have hnodup : s.columns.Nodup := builtIn_columns_nodup hs
  refine ⟨s, hs, rfl, s.query_sql, hnodup, fun result hcolumns hlength => ?_⟩
  rw [← hcolumns] at hnodup hlength ⊢
  exact showsRows_table hnodup hlength

end Catalogue

/-- Home runs of pitchers, under both of their names. -/
def Intent.homeRunsTwice : Intent where
  queryType := some .seasonPitching
  metrics := some ["homeruns_allowed", "era", "homerun"]

/-- One season of a pitcher. -/
def ResultSet.pitcherSeason : ResultSet :=
  .ofRows ["name", "season", "team", "hr", "era"]
    [[.str "Pitcher", .int 2023, .str "SEA", .int 12, .int 3]]

/-- Both names stand for one column, and its cell is shown. -/
theorem Catalogue.builtIn_shows_homeRunsTwice :
    ∃ (q : Query) (s : Statement),
      builtIn.compile .aggregated 10 .homeRunsTwice = .ok q ∧ q = s.query ∧
      s.columns = ["name", "season", "team", "hr", "era"] ∧
      ∃ shown, (builtIn.table .pitcherSeason).rows = [shown] ∧
        shown.get? "hr" = some (.int 12) := by
  have hcolumns : (builtIn.statement .aggregated 10 .homeRunsTwice).toOption.map
      Statement.columns = some ResultSet.pitcherSeason.columns := by
    decide +kernel
  obtain ⟨s, hs, hcolumns⟩ := exists_of_toOption_map hcolumns
  have hq : builtIn.compile .aggregated 10 .homeRunsTwice = .ok s.query :=
    compile_eq_ok_iff.2 ⟨s, hs, rfl⟩
  obtain ⟨s', hs', -, -, -, hrows⟩ :=
    builtIn_shows_every_cell .aggregated 10 .homeRunsTwice s.query hq
  obtain rfl : s = s' := Except.ok.inj (hs.symm.trans hs')
  have hwidth : ∀ row ∈ ResultSet.pitcherSeason.rows, row.length = s.columns.length := by
    rw [hcolumns]
    decide
  obtain ⟨shown, rest, hrow, hrest, htable⟩ :=
    List.forall₂_cons_left_iff.1 (hrows .pitcherSeason hcolumns.symm hwidth)
  obtain rfl := List.forall₂_nil_left_iff.1 hrest
  obtain ⟨value, hvalue, hshown⟩ := hrow.cells 3 "hr" (.int 12) (by rw [hcolumns]; rfl) rfl
  refine ⟨s.query, s, hq, rfl, hcolumns, shown, htable, hvalue.trans (congrArg some ?_)⟩
  cases hshown with
  | rounded _ hrounded => cases hrounded; rfl
  | kept => rfl

end Scorebook
