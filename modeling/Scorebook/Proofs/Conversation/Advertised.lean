import Scorebook.Conversation.Prompt
import Scorebook.Proofs.Intent.Acceptance

/-!
# The metrics that a prompt names

The prompt names the metrics of the tables, and validation accepts these. It accepts more: a metric
that only the table of single pitches has is known, and a proposal may sort by it or ask for it, but
no prompt names it. Main statement: the metrics that are named are those that are accepted exactly
if each metric of single pitches is a metric of some table.
-/

namespace Scorebook

/-- What asks for rows to be sorted by a metric. -/
def sortingBy (metric : String) : Json := .obj [(IntentField.orderBy.key, .str metric)]

/-- What asks for a single metric. -/
def askingFor (metric : String) : Json := .obj [(IntentField.metrics.key, .arr [.str metric])]

namespace Catalogue

variable {c : Catalogue} {metric : String} {proposal value : Json} {field : IntentField}

/-- Validation accepts the proposals that it admits. -/
theorem exists_validate_iff :
    (∃ intent, c.validate proposal = .ok intent) ↔ c.Admits proposal := by
  constructor
  · rintro ⟨intent, h⟩
    obtain ⟨fields, rfl, hreads⟩ := validate_eq_ok_iff.1 h
    exact hreads.admits
  · intro h
    obtain ⟨fields, rfl⟩ := h.1
    exact exists_validate h

/-- An object with one field is admitted if the field may have its value. -/
theorem admits_single (hvalue : value ≠ .null) :
    c.Admits (.obj [(field.key, value)]) ↔ c.AdmitsValue value field := by
  have hgives {other : IntentField} {given : Json} :
      (Json.obj [(field.key, value)]).Gives other given ↔ field = other ∧ value = given := by
    rw [Json.Gives, Json.field?, Json.fields?, Option.bind_some, lookup_cons_eq]
    by_cases hfield : other.key = field.key
    · obtain rfl := Vocabulary.name_injective hfield
      rw [if_pos rfl, Option.some.injEq, and_iff_right rfl, and_iff_left_of_imp]
      rintro rfl
      exact hvalue
    · have hne : field ≠ other := fun h => hfield (h ▸ rfl)
      simp [if_neg hfield, hne]
  constructor
  · intro h
    exact h.2 field value (hgives.2 ⟨rfl, rfl⟩)
  · intro h
    refine ⟨⟨_, rfl⟩, fun other given hgiven => ?_⟩
    obtain ⟨rfl, rfl⟩ := hgives.1 hgiven
    exact h

/-- Rows may be sorted by the metrics that are known. -/
theorem accepts_sortingBy_iff :
    (∃ intent, c.validate (sortingBy metric) = .ok intent) ↔ c.knowsMetric metric = true := by
  have hne : Json.str metric ≠ .null := Json.noConfusion
  rw [exists_validate_iff, sortingBy, admits_single hne]
  constructor
  · rintro ⟨known, hknown, h⟩
    exact (Json.str.inj hknown).symm ▸ h
  · intro h
    exact ⟨metric, rfl, h⟩

/-- A metric that is known may be asked for. -/
theorem accepts_askingFor (h : c.knowsMetric metric = true) :
    ∃ intent, c.validate (askingFor metric) = .ok intent := by
  have hne : Json.arr [.str metric] ≠ .null := Json.noConfusion
  rw [exists_validate_iff, askingFor, admits_single hne]
  refine ⟨[metric], rfl, Or.inr fun known hknown => ?_⟩
  obtain rfl := List.mem_singleton.1 hknown
  exact h

/-- The metrics of the tables are those that some context lists. -/
theorem mem_tableMetrics_iff :
    metric ∈ c.tableMetrics.keys ↔
      ∃ context table, c.table? context = some table ∧ metric ∈ table.metrics.keys := by
  rw [tableMetrics, KeySet.mem_keys_of, List.mem_flatMap]
  constructor
  · rintro ⟨table, htable, hmetric⟩
    obtain ⟨⟨context, found⟩, hentry, rfl⟩ := List.mem_map.1 htable
    exact ⟨context, found, Dict.get?_eq_some_iff.2 hentry, hmetric⟩
  · rintro ⟨context, table, ht, hmetric⟩
    exact ⟨table, Dict.mem_values_of_get? ht, hmetric⟩

/-- The metrics that are known are those of the tables and those of the single pitches. -/
theorem knowsMetric_iff :
    c.knowsMetric metric = true ↔ metric ∈ c.tableMetrics.keys ∨
      ∃ master, c.master = some master ∧ metric ∈ master.columns.keys := by
  simp only [knowsMetric, Bool.or_eq_true, List.any_eq_true, Option.any_eq_true, Dict.contains_iff,
    tableMetrics, KeySet.mem_keys_of, List.mem_flatMap]

/-- What a prompt says before it lists metrics. -/
def promptFront : String :=
  extractionRules ++ "\n\n" ++ termsLine "Query types" (Vocabulary.names QueryType) ++ "\n"
    ++ termsLine "Split types" (Vocabulary.names Split) ++ "\n"
    ++ termsLine "Pitcher hands" (Vocabulary.names Hand) ++ "\n"
    ++ termsLine "Game score buckets" (Vocabulary.names ScoreBucket)

/-- What a prompt says after it has listed metrics. -/
def promptBack : Option Int32 → String
  | none => ""
  | some season =>
    "\n\nWhen the question names no season and is not about a career, use "
      ++ String.ofList (Json.intText season.toInt) ++ "."

/-- The line of the metrics is the only part of a prompt that depends on the catalogue. -/
theorem prompt_eq (season : Option Int32) :
    c.prompt season = promptFront ++ "\n" ++ "Metrics: " ++ Text.joinWith ", " c.tableMetrics.keys
      ++ ", " ++ mainStats ++ promptBack season := by
  unfold prompt promptFront promptBack
  cases season with
  | none =>
    simp only [advertisedMetrics, Text.joinWith, String.append_assoc, String.append_empty]
  | some season => simp only [advertisedMetrics, Text.joinWith, String.append_assoc]

/-- In a prompt the line of the metrics lists those of the tables in ascending order, and then the
word for the defaults. Each listed metric is accepted, to sort by and alone in a list of metrics. To
sort by, the metrics of single pitches are accepted as well. So the metrics that are listed are
those that are accepted exactly if each metric of single pitches is a metric of some table. -/
theorem advertised_iff_accepted (c : Catalogue) :
    (∀ season, c.prompt season = promptFront ++ "\n" ++ "Metrics: "
      ++ Text.joinWith ", " c.tableMetrics.keys ++ ", " ++ mainStats ++ promptBack season) ∧
    (∀ metric ∈ c.tableMetrics.keys,
      (∃ intent, c.validate (sortingBy metric) = .ok intent) ∧
        ∃ intent, c.validate (askingFor metric) = .ok intent) ∧
    (∀ metric, (∃ intent, c.validate (sortingBy metric) = .ok intent) ↔
      metric ∈ c.tableMetrics.keys ∨
        ∃ master, c.master = some master ∧ metric ∈ master.columns.keys) ∧
    ((∀ metric, metric ∈ c.tableMetrics.keys ↔
        ∃ intent, c.validate (sortingBy metric) = .ok intent) ↔
      ∀ master, c.master = some master → ∀ metric ∈ master.columns.keys,
        ∃ context table, c.table? context = some table ∧ metric ∈ table.metrics.keys) := by
  refine ⟨prompt_eq, fun metric hlisted => ?listed, fun metric => ?sorted,
    fun hsame master hmaster metric hcolumn => ?only, fun hcovered metric => ?all⟩
  case listed =>
    have hknown := knowsMetric_iff.2 (Or.inl hlisted)
    exact ⟨accepts_sortingBy_iff.2 hknown, accepts_askingFor hknown⟩
  case sorted => rw [accepts_sortingBy_iff, knowsMetric_iff]
  case only =>
    have hknown : c.knowsMetric metric = true :=
      knowsMetric_iff.2 (Or.inr ⟨master, hmaster, hcolumn⟩)
    exact mem_tableMetrics_iff.1 ((hsame metric).2 (accepts_sortingBy_iff.2 hknown))
  case all =>
    rw [accepts_sortingBy_iff, knowsMetric_iff, iff_self_or]
    rintro ⟨master, hmaster, hcolumn⟩
    exact mem_tableMetrics_iff.2 (hcovered master hmaster metric hcolumn)

/-- A catalogue whose single pitches have no metric of their own. -/
def homeRunsOnly : Catalogue where
  version := "1"
  tables := Dict.ofList [("season_batting",
    { source := "batting", nameCol := "player_name", mainStats := ["homerun"]
      metrics := Dict.ofList [("homerun", .direct "home_runs")] })]
  master := some
    { source := "pitches", batterCol := "batter_name", pitcherCol := "pitcher_name"
      seasonCol := "game_year", dateCol := "game_date"
      columns := Dict.ofList [("homerun", "home_runs")] }

/-- Its prompt lists all that may be sorted by. -/
theorem homeRunsOnly_advertised :
    (∀ metric, metric ∈ homeRunsOnly.tableMetrics.keys ↔
      ∃ intent, homeRunsOnly.validate (sortingBy metric) = .ok intent) ∧
    ∃ intent, homeRunsOnly.validate (askingFor "homerun") = .ok intent := by
  obtain ⟨-, hlisted, -, hsame⟩ := advertised_iff_accepted homeRunsOnly
  have hmetric : "homerun" ∈ homeRunsOnly.tableMetrics.keys := by decide +kernel
  refine ⟨hsame.2 fun master hmaster metric hcolumn => ?_, (hlisted "homerun" hmetric).2⟩
  obtain rfl := Option.some.inj hmaster
  obtain rfl : metric = "homerun" := List.mem_singleton.1 hcolumn
  exact mem_tableMetrics_iff.1 hmetric

/-- The built-in prompt does not list singles, which only single pitches have, and rows may be
sorted by them. -/
theorem builtIn_singles_unadvertised :
    "singles" ∉ builtIn.tableMetrics.keys ∧
      ∃ intent, builtIn.validate (sortingBy "singles") = .ok intent := by
  have hmaster : "singles" ∈ BuiltIn.master.columns.keys :=
    Dict.mem_keys_ofList.2 (by decide)
  refine ⟨fun hlisted => ?_, accepts_sortingBy_iff.2
    (knowsMetric_iff.2 (Or.inr ⟨BuiltIn.master, rfl, hmaster⟩))⟩
  obtain ⟨context, table, ht, hmetric⟩ := mem_tableMetrics_iff.1 hlisted
  have hnone : table.metrics.get? "singles" = none :=
    Dict.of_get?_ofList (p := fun table => table.metrics.get? "singles" = none)
      (by decide +kernel) ht
  obtain ⟨descriptor, hsome⟩ := Dict.mem_keys_iff.1 hmetric
  exact Option.some_ne_none descriptor (hsome.symm.trans hnone)

end Catalogue

end Scorebook
