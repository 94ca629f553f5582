import Mathlib.Data.Option.Basic
import Scorebook.Catalogue.BuiltIn
import Scorebook.Catalogue.Consistency
import Scorebook.Proofs.Lookup

/-!
# What consistency promises

A catalogue is consistent exactly if every context has defaults, each of them has a column there,
and the two lists of metrics name known ones. Metrics that are no defaults are not looked at. So a
context may list a metric for which it has no column, and that is exactly a metric of a career
without any of the columns of a career.
-/

namespace Scorebook

/-- The only descriptor without columns is that of a career without any. -/
theorem Descriptor.columns_eq_nil_iff {descriptor : Descriptor} :
    descriptor.columns = [] ↔ descriptor = .career {} := by
  cases descriptor with
  | direct column => simp [columns]
  | career c =>
    obtain ⟨career, risp, basesLoaded⟩ := c
    cases career <;> cases risp <;> cases basesLoaded <;> simp [columns]

namespace Catalogue

variable {c : Catalogue} {context metric : String} {table : Table}

/-- Nothing is wrong with a catalogue. -/
structure Consistent (c : Catalogue) : Prop where
  /-- Every context has defaults. -/
  defaults_ne_nil : ∀ context table, c.table? context = some table → table.mainStats ≠ []
  /-- Each of them has a column in its context. -/
  defaults_resolve : ∀ context table, c.table? context = some table →
    ∀ metric ∈ table.mainStats, c.resolve metric context ≠ []
  /-- Metrics of which less is better are known. -/
  knows_lowerIsBetter : ∀ metric ∈ c.lowerIsBetter.keys, c.knowsMetric metric = true
  /-- Rates are known. -/
  knows_decimalMetrics : ∀ metric ∈ c.decimalMetrics.keys, c.knowsMetric metric = true

/-- Nothing is wrong with the defaults of a context exactly if there are some and each has a
column. -/
theorem tableViolation?_eq_none_iff :
    c.tableViolation? context table = none ↔
      table.mainStats ≠ [] ∧ ∀ metric ∈ table.mainStats, c.resolve metric context ≠ [] := by
  unfold tableViolation?
  split
  · rename_i hempty
    simp [List.isEmpty_iff.1 hempty]
  · rename_i hsome
    have hne : table.mainStats ≠ [] := fun hnil => hsome (List.isEmpty_iff.2 hnil)
    simp only [Option.map_eq_none_iff, List.find?_eq_none, List.isEmpty_iff, hne, ne_eq,
      not_false_eq_true, true_and]

/-- Nothing is wrong with a list of metrics exactly if each of them is known. -/
theorem listViolation?_eq_none_iff {list : MetricList} {metrics : KeySet} :
    c.listViolation? list metrics = none ↔
      ∀ metric ∈ metrics.keys, c.knowsMetric metric = true := by
  simp only [listViolation?, Option.map_eq_none_iff, List.find?_eq_none, Bool.not_eq_true',
    Bool.not_eq_false]

/-- No violation is found exactly in consistent catalogues. -/
theorem violation?_eq_none_iff : c.violation? = none ↔ c.Consistent := by
  have htables : (c.tables.entries.findSome? fun e => c.tableViolation? e.1 e.2) = none ↔
      ∀ context table, c.table? context = some table →
        table.mainStats ≠ [] ∧ ∀ metric ∈ table.mainStats, c.resolve metric context ≠ [] := by
    simp only [List.findSome?_eq_none_iff, tableViolation?_eq_none_iff, Prod.forall, table?,
      Dict.get?_eq_some_iff]
  rw [violation?, Option.orElse_eq_none, Option.orElse_eq_none, htables,
    listViolation?_eq_none_iff, listViolation?_eq_none_iff]
  constructor
  · rintro ⟨htable, hlower, hdecimal⟩
    exact ⟨fun context table ht => (htable context table ht).1,
      fun context table ht => (htable context table ht).2, hlower, hdecimal⟩
  · intro h
    exact ⟨fun context table ht => ⟨h.defaults_ne_nil context table ht,
      h.defaults_resolve context table ht⟩, h.knows_lowerIsBetter, h.knows_decimalMetrics⟩

/-- A metric has a column in a context exactly if the context lists it, and not as a metric of a
career without columns. -/
theorem resolve_ne_nil_iff :
    c.resolve metric context ≠ [] ↔
      c.descriptor? metric context ≠ none ∧ c.descriptor? metric context ≠ some (.career {}) := by
  unfold resolve
  cases c.descriptor? metric context with
  | none => simp
  | some descriptor => simp [Descriptor.columns_eq_nil_iff]

/-- A metric that a context lists is known. -/
theorem knowsMetric_of_descriptor? (h : c.descriptor? metric context ≠ none) :
    c.knowsMetric metric = true := by
  obtain ⟨descriptor, hd⟩ := Option.ne_none_iff_exists'.1 h
  obtain ⟨table, ht, hm⟩ := Option.bind_eq_some_iff.1 hd
  have hlists : table.metrics.contains metric = true := by
    rw [Dict.contains, hm]
    rfl
  have hany : c.tables.values.any (fun t => t.metrics.contains metric) = true :=
    List.any_eq_true.2 ⟨table, Dict.mem_values_of_get? ht, hlists⟩
  rw [knowsMetric, hany, Bool.true_or]

/-- In a consistent catalogue every metric has a column wherever it is listed exactly if none is
listed as a metric of a career without columns; no default ever is. Whatever a context lists is
known, and it can be shown somewhere exactly if some context lists it otherwise. -/
theorem listed_resolves_iff (c : Catalogue) (h : c.violation? = none) :
    ((∀ context metric, c.descriptor? metric context ≠ none → c.resolve metric context ≠ []) ↔
        ∀ context metric, c.descriptor? metric context ≠ some (.career {})) ∧
      (∀ context table, c.table? context = some table → ∀ metric ∈ table.mainStats,
        c.descriptor? metric context ≠ none ∧
          c.descriptor? metric context ≠ some (.career {})) ∧
      ∀ metric, (∃ context, c.descriptor? metric context ≠ none) →
        c.knowsMetric metric = true ∧
          ((∃ context, c.resolve metric context ≠ []) ↔
            ∃ context, c.descriptor? metric context ≠ none ∧
              c.descriptor? metric context ≠ some (.career {})) := by
  have hconsistent := violation?_eq_none_iff.1 h
  refine ⟨⟨fun hall context metric hdead => ?_, fun hnone context metric hlisted => ?_⟩,
    fun context table ht metric hm => ?_, fun metric hlisted => ⟨?_, ?_⟩⟩
  · have hlisted : c.descriptor? metric context ≠ none := by
      rw [hdead]
      exact Option.some_ne_none _
    exact (resolve_ne_nil_iff.1 (hall context metric hlisted)).2 hdead
  · exact resolve_ne_nil_iff.2 ⟨hlisted, hnone context metric⟩
  · exact resolve_ne_nil_iff.1 (hconsistent.defaults_resolve context table ht metric hm)
  · obtain ⟨context, hdescriptor⟩ := hlisted
    exact knowsMetric_of_descriptor? hdescriptor
  · simp only [resolve_ne_nil_iff]

/-- Nothing is wrong with the built-in catalogue. -/
theorem builtIn_violation? : builtIn.violation? = none := by
  decide +kernel

/-- The built-in catalogue has a column for each metric wherever it is listed. -/
theorem builtIn_listed_resolves :
    builtIn.violation? = none ∧ ∀ context metric, builtIn.descriptor? metric context ≠ none →
      builtIn.resolve metric context ≠ [] := by
  refine ⟨builtIn_violation?, (listed_resolves_iff builtIn builtIn_violation?).1.2 ?_⟩
  intro context metric hdead
  obtain ⟨table, ht, hm⟩ := Option.bind_eq_some_iff.1 hdead
  have hcolumns : ∀ descriptor ∈ table.metrics.values, descriptor ≠ .career {} :=
    Dict.of_get?_ofList (p := fun table => ∀ descriptor ∈ table.metrics.values,
      descriptor ≠ .career {}) (by decide +kernel) ht
  exact hcolumns _ (Dict.mem_values_of_get? hm) rfl

/-- A catalogue of careers that lists a metric without any column. -/
def opsWithoutColumn : Catalogue where
  version := "1"
  tables := Dict.ofList [("career_batting",
    { source := "batting_career", nameCol := "player_name", mainStats := ["homerun"],
      metrics := Dict.ofList
        [("homerun", .career { career := some "career_hr" }), ("ops", .career {})] })]

/-- It is consistent and knows the metric, but no context has a column for it. -/
theorem opsWithoutColumn_dead :
    opsWithoutColumn.violation? = none ∧ opsWithoutColumn.knowsMetric "ops" = true ∧
      opsWithoutColumn.descriptor? "ops" "career_batting" ≠ none ∧
      ∀ context, opsWithoutColumn.resolve "ops" context = [] := by
  refine ⟨by decide +kernel, by decide +kernel, by decide +kernel, fun context => ?_⟩
  have hentries : ∀ entry ∈ opsWithoutColumn.tables.entries,
      entry.2.metrics.get? "ops" = some (.career {}) := by
    decide +kernel
  by_contra hne
  obtain ⟨hlisted, hcolumns⟩ := resolve_ne_nil_iff.1 hne
  obtain ⟨descriptor, hd⟩ := Option.ne_none_iff_exists'.1 hlisted
  obtain ⟨table, ht, hm⟩ := Option.bind_eq_some_iff.1 hd
  rw [hd, ← hm] at hcolumns
  exact hcolumns (hentries _ (Dict.get?_eq_some_iff.1 ht))

end Catalogue

end Scorebook
