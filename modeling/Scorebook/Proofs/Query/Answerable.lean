import Scorebook.Proofs.Query.Defaults
import Scorebook.Proofs.Query.Projection

/-!
# When a table answers an intent

A table answers an intent exactly if it has the column of each condition that is asked for, and one
of the metrics shows something besides the columns that tell the rows apart. This depends on what is
asked for and not on the values. Only a second type of pitch may make a difference: the rows are
then collapsed, and a metric is not shown by its column but by the sum or the mean of it.
-/

namespace Scorebook

/-- A table has the column of each condition that an intent asks for; it always has the column of
the player's name. -/
structure Table.Offers (table : Table) (intent : Intent) : Prop where
  /-- The column of the season. -/
  season : intent.season ≠ none → table.yearCol ≠ none
  /-- The column of the inning. -/
  innings : intent.innings ≠ [] → table.filters.inning ≠ none
  /-- The column of the pitcher's hand. -/
  pitcherHand : intent.pitcherHand ≠ none → table.filters.pitcherThrows ≠ none
  /-- The column of the type of pitch. -/
  pitchTypes : intent.pitchTypes ≠ [] → table.filters.pitchType ≠ none
  /-- The column of the strikes. -/
  strikes : intent.strikes ≠ none → table.filters.strikes ≠ none
  /-- The column of the balls. -/
  balls : intent.balls ≠ none → table.filters.balls ≠ none
  /-- The column of the score. -/
  score : intent.score ≠ none → table.filters.gameScore ≠ none

/-- A catalogue answers an intent from the table of its context: the intent has a query type and
metrics, there is such a table, and it has the column of each condition, and a metric shows
something that does not tell the rows apart. -/
def Catalogue.Answers (c : Catalogue) (intent : Intent) : Prop :=
  ∃ (queryType : QueryType) (metrics : List String) (context : String) (table : Table),
    intent.queryType = some queryType ∧ intent.metrics = some metrics ∧
    intent.contextKey = some context ∧ c.table? context = some table ∧ table.Offers intent ∧
    ∃ metric ∈ c.expandMetrics metrics context, ∃ column ∈ c.resolve metric context,
      c.shownText table intent metric column ∉ table.keyColumns intent.isMonthly

/-- Two intents ask for the same metrics under the same conditions, whatever the values are, the
player, the order, the number of rows and the form of the answer. -/
structure Intent.AsksAlike (a b : Intent) : Prop where
  /-- They are about the same family of statistics. -/
  queryType : a.queryType = b.queryType
  /-- They have the same split. -/
  split : a.split = b.split
  /-- They ask for the same metrics. -/
  metrics : a.metrics = b.metrics
  /-- Both give a season or neither does. -/
  season : a.season = none ↔ b.season = none
  /-- Both list innings or neither does. -/
  innings : a.innings = [] ↔ b.innings = []
  /-- Both give the hand of the pitcher or neither does. -/
  pitcherHand : a.pitcherHand = none ↔ b.pitcherHand = none
  /-- Both list types of pitches or neither does. -/
  pitchTypes : a.pitchTypes = [] ↔ b.pitchTypes = []
  /-- Both list several types of pitches or neither does. -/
  severalPitchTypes : 1 < a.pitchTypes.length ↔ 1 < b.pitchTypes.length
  /-- Both give a number of strikes or neither does. -/
  strikes : a.strikes = none ↔ b.strikes = none
  /-- Both give a number of balls or neither does. -/
  balls : a.balls = none ↔ b.balls = none
  /-- Both give a bucket of the score or neither does. -/
  score : a.score = none ↔ b.score = none

/-- The columns that a table offers are those that conditions are written with. -/
theorem Table.offers_iff {table : Table} {intent : Intent} (binding : Binding) :
    table.Offers intent ↔
      ∀ value ∈ intent.valuesFor binding conditionSlots, (table.column? value.1).isSome := by
  have hslots : (∀ value ∈ intent.valuesFor binding conditionSlots,
        (table.column? value.1).isSome) ↔
      ∀ slot ∈ conditionSlots, intent.gives slot = true → (table.column? slot).isSome := by
    simp only [← intent.isSome_value? binding, Option.isSome_iff_exists]
    constructor
    · rintro h slot hslot ⟨value, hvalue⟩
      exact h (slot, value) (Intent.mem_valuesFor.2 ⟨hslot, hvalue⟩)
    · rintro h ⟨slot, value⟩ hmem
      obtain ⟨hslot, hvalue⟩ := Intent.mem_valuesFor.1 hmem
      exact h slot hslot ⟨value, hvalue⟩
  rw [hslots]
  simp only [conditionSlots, List.forall_mem_cons, Intent.gives, column?,
    Option.isSome_iff_ne_none, Bool.not_eq_true', List.isEmpty_eq_false_iff]
  constructor
  · rintro ⟨hseason, hinnings, hhand, hpitches, hstrikes, hballs, hscore⟩
    exact ⟨fun _ => Option.some_ne_none _, hseason, hinnings, hhand, hpitches, hstrikes, hballs,
      hscore, List.forall_mem_nil _⟩
  · rintro ⟨-, hseason, hinnings, hhand, hpitches, hstrikes, hballs, hscore, -⟩
    exact ⟨hseason, hinnings, hhand, hpitches, hstrikes, hballs, hscore⟩

namespace Catalogue

variable {c : Catalogue} {intent : Intent} {defaultLimit : UInt32}

/-- There is a query over the table of the context exactly if the catalogue answers the intent. -/
theorem exists_compile_iff :
    (∃ q, c.compile .aggregated defaultLimit intent = .ok q) ↔ c.Answers intent := by
  constructor
  · rintro ⟨q, hq⟩
    obtain ⟨s, hs, -⟩ := compile_eq_ok_iff.1 hq
    obtain ⟨metrics, context, table, hm, hk, ht, hadds, hcols, -⟩ := aggregated_eq_ok_iff.1 hs
    obtain ⟨queryType, hqt⟩ := Intent.queryType_of_contextKey hk
    obtain ⟨metric, hmetric, column, hcolumn, hnew⟩ := addsMetric_iff.1 hadds
    rw [sql_metricExpr (Table.collapses_iff hcols)] at hnew
    exact ⟨queryType, metrics, context, table, hqt, hm, hk, ht, (Table.offers_iff _).2 hcols,
      metric, hmetric, column, hcolumn, hnew⟩
  · rintro ⟨-, metrics, context, table, -, hm, hk, ht, hoffers, metric, hmetric, column, hcolumn,
      hnew⟩
    have hcols := (Table.offers_iff (tableBinding defaultLimit)).1 hoffers
    rw [← sql_metricExpr (Table.collapses_iff hcols)] at hnew
    have hadds := addsMetric_iff.2 ⟨metric, hmetric, column, hcolumn, hnew⟩
    exact ⟨_, compile_eq_ok_iff.2
      ⟨_, aggregated_eq_ok_iff.2 ⟨metrics, context, table, hm, hk, ht, hadds, hcols, rfl⟩, rfl⟩⟩

end Catalogue

namespace Intent.AsksAlike

variable {a b : Intent} {c : Catalogue}

/-- The relation goes both ways. -/
theorem symm (h : a.AsksAlike b) : b.AsksAlike a where
  queryType := h.queryType.symm
  split := h.split.symm
  metrics := h.metrics.symm
  season := h.season.symm
  innings := h.innings.symm
  pitcherHand := h.pitcherHand.symm
  pitchTypes := h.pitchTypes.symm
  severalPitchTypes := h.severalPitchTypes.symm
  strikes := h.strikes.symm
  balls := h.balls.symm
  score := h.score.symm

/-- A table that has the columns for one of the intents has them for the other. -/
theorem offers {table : Table} (h : a.AsksAlike b) (ha : table.Offers a) : table.Offers b where
  season hb := ha.season fun hnone => hb (h.season.1 hnone)
  innings hb := ha.innings fun hnil => hb (h.innings.1 hnil)
  pitcherHand hb := ha.pitcherHand fun hnone => hb (h.pitcherHand.1 hnone)
  pitchTypes hb := ha.pitchTypes fun hnil => hb (h.pitchTypes.1 hnil)
  strikes hb := ha.strikes fun hnone => hb (h.strikes.1 hnone)
  balls hb := ha.balls fun hnone => hb (h.balls.1 hnone)
  score hb := ha.score fun hnone => hb (h.score.1 hnone)

/-- If one of the intents is answered, so is the other. -/
theorem answers (h : a.AsksAlike b) (ha : c.Answers a) : c.Answers b := by
  obtain ⟨queryType, metrics, context, table, hqt, hm, hk, ht, hoffers, metric, hmetric, column,
    hcolumn, hnew⟩ := ha
  have hcontext : b.contextKey = a.contextKey := by
    simp only [contextKey, h.queryType, h.split]
  have hmonthly : b.isMonthly = a.isMonthly := by
    simp only [isMonthly, h.split]
  have htext : c.shownText table b metric column = c.shownText table a metric column := by
    simp only [Catalogue.shownText, h.severalPitchTypes]
  refine ⟨queryType, metrics, context, table, h.queryType ▸ hqt, h.metrics ▸ hm, hcontext ▸ hk, ht,
    h.offers hoffers, metric, hmetric, column, hcolumn, ?_⟩
  rwa [htext, hmonthly]

end Intent.AsksAlike

namespace Catalogue

/-- There is a query over the table of the context exactly if the intent has a query type and
metrics, the table exists and has the column of each condition, and a metric shows something that
does not tell the rows apart. So it makes no difference which values are given, nor for which
player, in what order, how many rows and in what form; only whether several types of pitches are
asked for makes one. -/
theorem compile_answers_iff (c : Catalogue) (defaultLimit : UInt32) (intent : Intent) :
    ((∃ q, c.compile .aggregated defaultLimit intent = .ok q) ↔ c.Answers intent) ∧
      ∀ (other : Intent) (limit : UInt32), intent.AsksAlike other →
        ((∃ q, c.compile .aggregated limit other = .ok q) ↔
          ∃ q, c.compile .aggregated defaultLimit intent = .ok q) := by
  refine ⟨exists_compile_iff, fun other limit halike => ?_⟩
  rw [exists_compile_iff, exists_compile_iff]
  exact ⟨halike.symm.answers, halike.answers⟩

end Catalogue

/-- Three other types of pitches off one pitcher, a few rows in no order. -/
def Intent.againstThreePitches : Intent where
  queryType := some .pitchingSplits
  split := some .pitchType
  metrics := some ["opponent_avg"]
  subjectName := some "Cole"
  pitchTypes := ["Curveball", "Sinker", "Changeup"]
  limit := some 3
  format := .table

/-- It is answered as well as the intent for all pitchers and two types of pitches. -/
theorem Catalogue.builtIn_answers_againstThreePitches :
    Intent.againstTwoPitches.AsksAlike .againstThreePitches ∧
      ∃ q, builtIn.compile .aggregated 50 .againstThreePitches = .ok q := by
  have halike : Intent.againstTwoPitches.AsksAlike .againstThreePitches := by
    constructor <;> decide
  have hsome : (builtIn.compile .aggregated 10 .againstTwoPitches).toOption.isSome = true := by
    decide +kernel
  obtain ⟨-, hothers⟩ := compile_answers_iff builtIn 10 .againstTwoPitches
  exact ⟨halike, (hothers .againstThreePitches 50 halike).2 (exists_of_toOption_isSome hsome)⟩

/-- A catalogue of seasons by type of pitch, whose only metric is the name of the player. -/
def Catalogue.namesByPitch : Catalogue where
  version := "1"
  tables := Dict.ofList [("season_batting",
    { source := "batting", nameCol := "player_name",
      filters := { pitchType := some "pitch_name" }
      mainStats := ["player"], metrics := Dict.ofList [("player", .direct "player_name")] })]

/-- The names of the players who saw some types of pitches. -/
def Intent.namesOffPitches (pitchTypes : List String) : Intent where
  queryType := some .seasonBatting
  metrics := some ["player"]
  pitchTypes := pitchTypes

/-- The value of the condition makes a difference: there is no answer for one type of pitch, and
there is one for two. -/
theorem Catalogue.namesByPitch_differs :
    (¬ ∃ q, namesByPitch.compile .aggregated 100 (.namesOffPitches ["Slider"]) = .ok q) ∧
      ∃ q, namesByPitch.compile .aggregated 100 (.namesOffPitches ["Slider", "Curveball"]) =
        .ok q := by
  refine ⟨?_, exists_of_toOption_isSome (by decide +kernel)⟩
  rintro ⟨q, hq⟩
  have hnone : (namesByPitch.compile .aggregated 100
      (.namesOffPitches ["Slider"])).toOption.isSome = false := by
    decide +kernel
  rw [hq] at hnone
  cases hnone

end Scorebook
