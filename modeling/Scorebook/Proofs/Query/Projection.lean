import Scorebook.Proofs.Query.Grouping

/-!
# What a query over a table shows

A query over a table shows the columns that tell the rows apart and behind them, metric by metric,
the columns of the metrics that are asked for; what is shown already is not shown again. So a metric
adds nothing if it has no column in the context or was listed before, and the word for the defaults
is as good as the list of them.
-/

namespace Scorebook

/-- A column of a metric as it is shown: the column itself, or for several types of pitches the sum
of a count, and the mean of a rate, with the weights of the table if it has any. -/
def Catalogue.shownText (c : Catalogue) (table : Table) (intent : Intent)
    (metric column : String) : String :=
  if 1 < intent.pitchTypes.length then
    if c.isRate metric then
      match table.weightCol with
      | some weight =>
        "SUM(" ++ column ++ " * " ++ weight ++ ") / NULLIF(SUM(" ++ weight ++ "), 0)"
      | none => "AVG(" ++ column ++ ")"
    else "SUM(" ++ column ++ ")"
  else column

/-- The columns of some metrics as they are shown, metric by metric. -/
def Catalogue.shownTexts (c : Catalogue) (table : Table) (context : String) (intent : Intent)
    (metrics : List String) : List String :=
  metrics.flatMap fun metric => (c.resolve metric context).map (c.shownText table intent metric)

/-- The metrics that a list comes to in a context: those that have a column there, each once. -/
def Catalogue.effectiveMetrics (c : Catalogue) (context : String) (metrics : List String) :
    List String :=
  ((c.expandMetrics metrics context).filter fun metric =>
    !(c.resolve metric context).isEmpty).eraseDups

/-- An intent with another list of metrics. -/
def Intent.withMetrics (intent : Intent) (metrics : List String) : Intent :=
  { intent with metrics := some metrics }

/-- What comes of nothing may be left out of a list beforehand. -/
theorem flatMap_filter_of_nil {α β : Type} {p : α → Bool} {f : α → List β} {l : List α}
    (h : ∀ a, p a = false → f a = []) : (l.filter p).flatMap f = l.flatMap f := by
  induction l with
  | nil => rfl
  | cons a l ih =>
    rw [List.flatMap_cons, ← ih]
    cases hp : p a with
    | true => rw [List.filter_cons_of_pos hp, List.flatMap_cons]
    | false =>
      rw [List.filter_cons_of_neg (Bool.not_eq_true _ ▸ hp), h a hp, List.nil_append]

namespace Catalogue

variable {c : Catalogue} {intent : Intent} {context : String} {table : Table}
  {defaultLimit : UInt32}

/-- Where rows collapse for several types of pitches, a column of a metric has this text. -/
theorem sql_metricExpr (hcollapse : table.collapses intent = true ↔ 1 < intent.pitchTypes.length)
    (metric column : String) :
    (c.metricExpr table (table.collapses intent) metric column).sql =
      c.shownText table intent metric column := by
  by_cases h : 1 < intent.pitchTypes.length
  · rw [metricExpr, if_pos (hcollapse.2 h), shownText, if_pos h, collapsed]
    cases c.isRate metric with
    | false => rfl
    | true => cases table.weightCol <;> rfl
  · rw [metricExpr, if_neg (fun hc => h (hcollapse.1 hc)), shownText, if_neg h]
    rfl

/-- The outputs of metrics have these texts. -/
theorem texts_metricOutputs
    (hcollapse : table.collapses intent = true ↔ 1 < intent.pitchTypes.length)
    (metrics : List String) :
    Output.texts (c.metricOutputs table context (table.collapses intent) metrics) =
      c.shownTexts table context intent (c.expandMetrics metrics context) := by
  simp only [Output.texts, metricOutputs, shownTexts, List.map_flatMap, List.map_map,
    Function.comp_def, sql_metricExpr hcollapse]

/-- A statement over a table shows what tells the rows apart and the columns of the metrics, each
text once. -/
theorem texts_tableStatement
    (hcollapse : table.collapses intent = true ↔ 1 < intent.pitchTypes.length)
    (metrics : List String) :
    Output.texts (c.tableStatement defaultLimit intent metrics context table).outputs =
      (table.keyColumns intent.isMonthly ++
        c.shownTexts table context intent (c.expandMetrics metrics context)).eraseDups := by
  have hparts : Output.texts (table.identity intent.isMonthly ++
      c.metricOutputs table context (table.collapses intent) metrics) =
        table.keyColumns intent.isMonthly ++
          c.shownTexts table context intent (c.expandMetrics metrics context) := by
    rw [← Table.texts_identity, ← texts_metricOutputs hcollapse]
    exact List.map_append
  rw [tableStatement, ← Output.addAll_append, Output.texts_addAll_nil, hparts]

/-- Only the metrics that a list comes to add to what is shown. -/
theorem addAll_metricOutputs (outputs : List Output) (collapse : Bool) (metrics : List String) :
    Output.addAll outputs (c.metricOutputs table context collapse metrics) =
      Output.addAll outputs ((c.effectiveMetrics context metrics).flatMap fun metric =>
        (c.resolve metric context).map fun column =>
          ⟨c.metricExpr table collapse metric column, column⟩) := by
  have hnone : ∀ metric, (!(c.resolve metric context).isEmpty) = false →
      ((c.resolve metric context).map fun column =>
        (⟨c.metricExpr table collapse metric column, column⟩ : Output)) = [] := by
    intro metric hempty
    rw [Bool.not_eq_false', List.isEmpty_iff] at hempty
    rw [hempty, List.map_nil]
  rw [effectiveMetrics, Output.addAll_flatMap_eraseDups, flatMap_filter_of_nil hnone, metricOutputs]

/-- Lists of metrics that come to the same have the same statement, or none for the same reason. -/
theorem aggregated_withMetrics {metrics others : List String}
    (h : ∀ context, intent.contextKey = some context →
      c.effectiveMetrics context others = c.effectiveMetrics context metrics) :
    c.aggregated defaultLimit (intent.withMetrics others) =
      c.aggregated defaultLimit (intent.withMetrics metrics) := by
  have hkey (list : List String) : (intent.withMetrics list).contextKey = intent.contextKey := rfl
  unfold aggregated
  rw [hkey, hkey]
  cases hcontext : intent.contextKey with
  | none => rfl
  | some context =>
    simp only [Intent.withMetrics, addAll_metricOutputs, h context hcontext]
    rfl

/-- Such lists have the same query. -/
theorem compile_withMetrics {metrics others : List String}
    (h : ∀ context, intent.contextKey = some context →
      c.effectiveMetrics context others = c.effectiveMetrics context metrics) :
    c.compile .aggregated defaultLimit (intent.withMetrics others) =
      c.compile .aggregated defaultLimit (intent.withMetrics metrics) :=
  congrArg (Except.map Statement.query) (aggregated_withMetrics h)

/-- The word for the defaults comes to the same as the list of them, even where the only default has
that word for its key. -/
theorem effectiveMetrics_mainStats (ht : c.table? context = some table) :
    c.effectiveMetrics context [mainStats] = c.effectiveMetrics context table.mainStats := by
  have hlist : c.expandMetrics [mainStats] context = table.mainStats := by
    rw [expandMetrics, if_pos rfl, ht]
    rfl
  have hword : c.expandMetrics table.mainStats context = table.mainStats := by
    by_cases h : table.mainStats = [mainStats]
    · rw [h, hlist, h]
    · rw [expandMetrics, if_neg h]
  rw [effectiveMetrics, effectiveMetrics, hlist, hword]

/-- A query over a table shows the columns that tell the rows apart and behind them the columns of
the metrics, in the order in which they are asked for, each text once and nothing else. So every
column of a metric is shown, lists of metrics that come to the same have the same query, and so have
the word for the defaults and the list of them. -/
theorem compile_projects (c : Catalogue) (defaultLimit : UInt32) (intent : Intent) (q : Query)
    (h : c.compile .aggregated defaultLimit intent = .ok q) :
    ∃ (s : Statement) (metrics : List String) (context : String) (table : Table),
      c.statement .aggregated defaultLimit intent = .ok s ∧ q = s.query ∧
      q.sql = s.clauses.text ∧
      intent.metrics = some metrics ∧ intent.contextKey = some context ∧
      c.table? context = some table ∧
      KeepsFirst (table.keyColumns intent.isMonthly ++
          c.shownTexts table context intent (c.expandMetrics metrics context))
        (Output.texts s.outputs) ∧
      (∀ metric ∈ c.expandMetrics metrics context, ∀ column ∈ c.resolve metric context,
        c.shownText table intent metric column ∈ Output.texts s.outputs) ∧
      (∀ others, c.effectiveMetrics context others = c.effectiveMetrics context metrics →
        c.compile .aggregated defaultLimit (intent.withMetrics others) = .ok q) ∧
      c.compile .aggregated defaultLimit (intent.withMetrics [mainStats]) =
        c.compile .aggregated defaultLimit (intent.withMetrics table.mainStats) := by
  obtain ⟨s, hs, hq⟩ := compile_eq_ok_iff.1 h
  obtain ⟨metrics, context, table, hm, hk, ht, -, hcols, hstatement⟩ := aggregated_eq_ok_iff.1 hs
  have hkept : KeepsFirst (table.keyColumns intent.isMonthly ++
      c.shownTexts table context intent (c.expandMetrics metrics context))
        (Output.texts s.outputs) := by
    rw [hstatement, texts_tableStatement (Table.collapses_iff hcols)]
    exact keepsFirst_eraseDups _
  have hcontext {first second : List String}
      (hsame : c.effectiveMetrics context first = c.effectiveMetrics context second) :
      ∀ context', intent.contextKey = some context' →
        c.effectiveMetrics context' first = c.effectiveMetrics context' second := by
    intro context' hk'
    obtain rfl := Option.some.inj (hk.symm.trans hk')
    exact hsame
  refine ⟨s, metrics, context, table, hs, hq, hq ▸ s.query_sql, hm, hk, ht, hkept, ?_,
    fun others hsame => ?_,
    compile_withMetrics (hcontext (effectiveMetrics_mainStats ht))⟩
  · intro metric hmetric column hcolumn
    refine (hkept.mem_iff _).2 (List.mem_append_right _ ?_)
    exact List.mem_flatMap.2 ⟨metric, hmetric, List.mem_map_of_mem hcolumn⟩
  · have hself : intent.withMetrics metrics = intent := by
      rw [Intent.withMetrics, ← hm]
    rw [compile_withMetrics (hcontext hsame), hself, h]

end Catalogue

/-- The averages against two types of pitches, asked for twice, and a metric that pitchers do not
have for a type of pitch. -/
def Intent.averagesTwice : Intent :=
  Intent.againstTwoPitches.withMetrics ["opponent_avg", "war", "opponent_avg"]

/-- The weighted mean is shown, and the query is the one for the averages alone. -/
theorem Catalogue.compile_averagesTwice :
    ∃ (q : Query) (s : Statement),
      builtIn.compile .aggregated 10 .averagesTwice = .ok q ∧ q = s.query ∧
      "SUM(avg_against * tbf) / NULLIF(SUM(tbf), 0)" ∈ Output.texts s.outputs ∧
      builtIn.compile .aggregated 10 (Intent.averagesTwice.withMetrics ["opponent_avg"]) =
        .ok q := by
  have hfacts : (builtIn.compile .aggregated 10 .averagesTwice).toOption.isSome = true ∧
      (builtIn.table? "pitching_splits_pitch_type").map (fun t =>
        builtIn.shownText t .averagesTwice "opponent_avg" "avg_against") =
          some "SUM(avg_against * tbf) / NULLIF(SUM(tbf), 0)" ∧
      builtIn.resolve "opponent_avg" "pitching_splits_pitch_type" = ["avg_against"] ∧
      builtIn.effectiveMetrics "pitching_splits_pitch_type" ["opponent_avg"] =
        builtIn.effectiveMetrics "pitching_splits_pitch_type"
          ["opponent_avg", "war", "opponent_avg"] := by
    decide +kernel
  obtain ⟨hsome, htext, hresolve, heffective⟩ := hfacts
  obtain ⟨q, hq⟩ := exists_of_toOption_isSome hsome
  obtain ⟨s, metrics, context, table, -, hquery, -, hmetrics, hcontext, htable, -, hshown, hsame,
    -⟩ := compile_projects builtIn 10 .averagesTwice q hq
  obtain rfl : ["opponent_avg", "war", "opponent_avg"] = metrics := Option.some.inj hmetrics
  obtain rfl : "pitching_splits_pitch_type" = context := Option.some.inj hcontext
  have hasked : "opponent_avg" ∈ builtIn.expandMetrics ["opponent_avg", "war", "opponent_avg"]
      "pitching_splits_pitch_type" := by
    rw [expandMetrics, if_neg (by decide)]
    exact List.mem_cons_self
  have hcolumn := hshown "opponent_avg" hasked "avg_against" (hresolve ▸ List.mem_singleton_self _)
  rw [htable, Option.map_some, Option.some.injEq] at htext
  rw [htext] at hcolumn
  exact ⟨q, s, hq, hquery, hcolumn, hsame ["opponent_avg"] heffective⟩

end Scorebook
