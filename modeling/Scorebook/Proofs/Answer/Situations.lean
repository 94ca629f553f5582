import Scorebook.Answer.Plan
import Scorebook.Catalogue.BuiltIn
import Scorebook.Proofs.Query.Compile

/-!
# What becomes of a situation of the runners

A split may be a situation of the runners by itself. Over single pitches it is a condition, whatever
the query type. Over tables it is read from the context alone, and only the query types that exist
within splits have it there. So a plan of another query type keeps the situation exactly if a second
condition sends it to the single pitches; by itself the situation is lost, and the answer is that to
the question without it.
-/

namespace Scorebook

namespace Engine

/-- A plan keeps a situation: over single pitches there is the condition on the runners, over tables
the context names the split, and the query reads the table of that context. -/
def KeepsSplit (engine : Engine) (plan : Plan) (split : Split) : Prop :=
  (plan.strategy = .eventLevel ∧ ∃ s situation,
    engine.catalogue.eventLevel engine.settings.defaultLimit plan.intent = .ok s ∧
      plan.query = s.query ∧ split.runners? = some situation ∧
      .runners situation ∈ s.conditions) ∨
  (plan.strategy = .aggregated ∧ ∃ queryType metrics context table,
    plan.intent.queryType = some queryType ∧ plan.intent.metrics = some metrics ∧
      context = Vocabulary.name queryType ++ "_" ++ Vocabulary.name split ∧
      plan.intent.contextKey = some context ∧ engine.catalogue.table? context = some table ∧
      plan.query = (engine.catalogue.tableStatement engine.settings.defaultLimit plan.intent
        metrics context table).query)

/-- There is a plan exactly if the proposal is valid and its intent has a query. -/
theorem plan_eq_ok_iff {engine : Engine} {proposal : Json} {plan : Plan} :
    engine.plan proposal = .ok plan ↔
      engine.catalogue.validate proposal = .ok plan.intent ∧
        plan.strategy = plan.intent.strategy ∧
        engine.catalogue.compile plan.intent.strategy engine.settings.defaultLimit plan.intent =
          .ok plan.query := by
  obtain ⟨intent, strategy, query⟩ := plan
  unfold Engine.plan
  cases hv : engine.catalogue.validate proposal with
  | error reason => simp
  | ok intent' =>
    simp only [planIntent, Except.ok.injEq]
    constructor
    · intro h
      split at h
      · rename_i hq
        obtain ⟨rfl, rfl, rfl⟩ := Plan.mk.injEq .. ▸ Except.ok.inj h
        exact ⟨rfl, rfl, hq⟩
      · cases h
    · rintro ⟨rfl, rfl, hq⟩
      simp only [hq]

end Engine

namespace Intent

variable {intent : Intent}

/-- The strategy is to read single pitches from two conditions on. -/
theorem strategy_eq_eventLevel_iff : intent.strategy = .eventLevel ↔ 2 ≤ intent.conditionCount := by
  unfold strategy eventLevelThreshold
  split <;> simp <;> omega

/-- The context of a query type that exists only within splits names the split. -/
theorem contextKey_of_isSplit {queryType : QueryType} {split : Split}
    (hq : intent.queryType = some queryType) (hs : intent.split = some split)
    (h : queryType.isSplit = true) :
    intent.contextKey = some (Vocabulary.name queryType ++ "_" ++ Vocabulary.name split) := by
  simp only [contextKey, hq, hs, h, if_true, Option.map_some]

/-- The context of any other query type is its name. -/
theorem contextKey_of_not_isSplit {queryType : QueryType} (hq : intent.queryType = some queryType)
    (h : queryType.isSplit = false) : intent.contextKey = some (Vocabulary.name queryType) := by
  simp [contextKey, hq, h]

/-- An intent without its split. -/
def withoutSplit (intent : Intent) : Intent := { intent with split := none }

end Intent

/-- Over tables, a situation makes no difference to a query type that exists without splits. -/
theorem Catalogue.aggregated_withoutSplit (c : Catalogue) (defaultLimit : UInt32) {intent : Intent}
    {queryType : QueryType} {split : Split} (hq : intent.queryType = some queryType)
    (hs : intent.split = some split) (hsplit : queryType.isSplit = false)
    (hsituation : split.isSituational = true) :
    c.aggregated defaultLimit intent.withoutSplit = c.aggregated defaultLimit intent := by
  have hcontext : intent.withoutSplit.contextKey = intent.contextKey := by
    rw [Intent.contextKey_of_not_isSplit hq hsplit]
    have hq' : intent.withoutSplit.queryType = some queryType := hq
    exact Intent.contextKey_of_not_isSplit hq' hsplit
  have hmonthly : intent.withoutSplit.isMonthly = intent.isMonthly := by
    have hne : split ≠ .monthly := by
      rintro rfl
      cases hsituation
    simp [Intent.isMonthly, Intent.withoutSplit, hs, hne]
  unfold Catalogue.aggregated
  rw [hcontext, hmonthly]
  rfl

namespace Engine

variable {engine : Engine} {proposal : Json} {plan : Plan} {split : Split}

/-- Over single pitches, a situation is always kept. -/
theorem keepsSplit_of_eventLevel (h : engine.plan proposal = .ok plan)
    (hs : plan.intent.split = some split) (hsituation : split.isSituational = true)
    (hcount : 2 ≤ plan.intent.conditionCount) : engine.KeepsSplit plan split := by
  obtain ⟨-, hstrategy, hquery⟩ := plan_eq_ok_iff.1 h
  rw [Intent.strategy_eq_eventLevel_iff.2 hcount] at hstrategy hquery
  obtain ⟨s, hstatement, hq⟩ := Catalogue.compile_eq_ok_iff.1 hquery
  have hevent : engine.catalogue.eventLevel engine.settings.defaultLimit plan.intent = .ok s :=
    hstatement
  obtain ⟨situation, hsituated⟩ : ∃ situation, split.runners? = some situation := by
    cases split <;> first | exact ⟨_, rfl⟩ | cases hsituation
  refine Or.inl ⟨hstrategy, s, situation, hevent, hq, hsituated, ?_⟩
  obtain ⟨queryType, master, -, -, rfl⟩ := Catalogue.eventLevel_eq_ok_iff.1 hevent
  have hmem : Condition.runners situation ∈
      ((plan.intent.split.bind Split.runners?).map Condition.runners).toList := by
    rw [hs, Option.bind_some, hsituated]
    exact List.mem_singleton_self _
  exact List.mem_append_left _ (List.mem_append_right _ hmem)

/-- With fewer conditions than two, a plan reads the table of its context. -/
theorem plan_aggregated (h : engine.plan proposal = .ok plan)
    (hcount : ¬ 2 ≤ plan.intent.conditionCount) :
    plan.strategy = .aggregated ∧
      ∃ metrics context table, plan.intent.metrics = some metrics ∧
        plan.intent.contextKey = some context ∧ engine.catalogue.table? context = some table ∧
        engine.catalogue.aggregated engine.settings.defaultLimit plan.intent =
          .ok (engine.catalogue.tableStatement engine.settings.defaultLimit plan.intent metrics
            context table) ∧
        plan.query = (engine.catalogue.tableStatement engine.settings.defaultLimit plan.intent
          metrics context table).query := by
  obtain ⟨-, hstrategy, hquery⟩ := plan_eq_ok_iff.1 h
  have haggregated : plan.intent.strategy = .aggregated := by
    cases hc : plan.intent.strategy with
    | aggregated => rfl
    | eventLevel => exact absurd (Intent.strategy_eq_eventLevel_iff.1 hc) hcount
  rw [haggregated] at hstrategy hquery
  obtain ⟨s, hstatement, hq⟩ := Catalogue.compile_eq_ok_iff.1 hquery
  obtain ⟨metrics, context, table, hm, hk, ht, -, -, rfl⟩ :=
    Catalogue.aggregated_eq_ok_iff.1 hstatement
  exact ⟨hstrategy, metrics, context, table, hm, hk, ht, hstatement, hq⟩

/-- Over tables, a query type that exists only within splits keeps the situation in its context. -/
theorem keepsSplit_of_isSplit {queryType : QueryType} (h : engine.plan proposal = .ok plan)
    (hcount : ¬ 2 ≤ plan.intent.conditionCount) (hs : plan.intent.split = some split)
    (hqt : plan.intent.queryType = some queryType) (hsplit : queryType.isSplit = true) :
    engine.KeepsSplit plan split := by
  obtain ⟨hstrategy, metrics, context, table, hm, hk, ht, -, hq⟩ := plan_aggregated h hcount
  have hcontext := Option.some.inj (hk.symm.trans (Intent.contextKey_of_isSplit hqt hs hsplit))
  exact Or.inr ⟨hstrategy, queryType, metrics, context, table, hqt, hm, hcontext, hk, ht, hq⟩

/-- Over tables, the context of any other query type does not name the split. -/
theorem not_keepsSplit {queryType : QueryType} (h : engine.plan proposal = .ok plan)
    (hcount : ¬ 2 ≤ plan.intent.conditionCount) (hqt : plan.intent.queryType = some queryType)
    (hsplit : queryType.isSplit = false) : ¬ engine.KeepsSplit plan split := by
  obtain ⟨hstrategy, -⟩ := plan_aggregated h hcount
  rintro (⟨hevent, -⟩ | ⟨-, queryType', _, context, _, hqt', -, hcontext, hk, -⟩)
  · rw [hstrategy] at hevent
    cases hevent
  · obtain rfl := Option.some.inj (hqt.symm.trans hqt')
    have hname := Intent.contextKey_of_not_isSplit hqt hsplit
    rw [hk, Option.some.injEq, hcontext] at hname
    have hlength := congrArg String.length hname
    simp only [String.length_append] at hlength
    have hbar : "_".length = 1 := rfl
    omega

/-- A plan keeps a situation of the runners exactly if its query type exists only within splits or a
second condition is asked for. Otherwise its query is that of the broader question, in which the
situation is not mentioned. -/
theorem plan_keepsSplit_iff (engine : Engine) (proposal : Json) (plan : Plan) (split : Split)
    (h : engine.plan proposal = .ok plan) (hs : plan.intent.split = some split)
    (hsituation : split.isSituational = true) :
    (engine.KeepsSplit plan split ↔
      plan.intent.queryType.any QueryType.isSplit = true ∨ 2 ≤ plan.intent.conditionCount) ∧
      (¬ engine.KeepsSplit plan split →
        engine.catalogue.compile .aggregated engine.settings.defaultLimit
          plan.intent.withoutSplit = .ok plan.query) := by
  by_cases hcount : 2 ≤ plan.intent.conditionCount
  · have hkeeps := keepsSplit_of_eventLevel h hs hsituation hcount
    exact ⟨⟨fun _ => Or.inr hcount, fun _ => hkeeps⟩, fun hnot => absurd hkeeps hnot⟩
  obtain ⟨-, metrics, context, table, -, hk, -, hstatement, hq⟩ := plan_aggregated h hcount
  obtain ⟨queryType, hqt⟩ := Intent.queryType_of_contextKey hk
  have hany : plan.intent.queryType.any QueryType.isSplit = queryType.isSplit := by
    rw [hqt]
    rfl
  rw [hany]
  cases hsplit : queryType.isSplit with
  | true =>
    have hkeeps := keepsSplit_of_isSplit h hcount hs hqt hsplit
    exact ⟨⟨fun _ => Or.inl rfl, fun _ => hkeeps⟩, fun hnot => absurd hkeeps hnot⟩
  | false =>
    have hlost : ¬ engine.KeepsSplit plan split := not_keepsSplit h hcount hqt hsplit
    have hbroader := engine.catalogue.aggregated_withoutSplit engine.settings.defaultLimit hqt hs
      hsplit hsituation
    refine ⟨⟨fun hkeeps => absurd hkeeps hlost, fun hor => ?_⟩, fun _ => ?_⟩
    · exact absurd (hor.resolve_left Bool.false_ne_true) hcount
    · exact Catalogue.compile_eq_ok_iff.2 ⟨_, hbroader.trans hstatement, hq⟩

end Engine

/-- A proposal to count the home runs of batters with runners in scoring position. -/
def rispProposal (more : List (String × Json)) : Json :=
  .obj ([("query_type", .str "season_batting"), ("split_type", .str "risp"),
    ("metrics", .arr [.str "homerun"])] ++ more)

namespace Engine

/-- An engine that has the single pitches and no tables. -/
def pitchesOnly : Engine where
  catalogue :=
    { version := "1"
      tables := ∅
      master := some
        { source := "pitches", batterCol := "batter", pitcherCol := "pitcher",
          seasonCol := "season", dateCol := "date",
          columns := Dict.ofList [("homerun", "home_runs")] } }

/-- Together with an inning, the situation is kept. -/
theorem plan_keeps_risp :
    ∃ plan, pitchesOnly.plan (rispProposal [("inning", .int 9)]) = .ok plan ∧
      plan.intent.split = some .risp ∧ pitchesOnly.KeepsSplit plan .risp := by
  have hplan : (pitchesOnly.plan (rispProposal [("inning", .int 9)])).toOption.any (fun plan =>
      plan.intent.split == some .risp && decide (2 ≤ plan.intent.conditionCount)) = true := by
    decide +kernel
  cases hp : pitchesOnly.plan (rispProposal [("inning", .int 9)]) with
  | error e =>
    rw [hp] at hplan
    cases hplan
  | ok plan =>
    rw [hp] at hplan
    simp only [Except.toOption, Option.any_some, Bool.and_eq_true, beq_iff_eq,
      decide_eq_true_eq] at hplan
    obtain ⟨hsplit, hcount⟩ := hplan
    obtain ⟨hkeeps, -⟩ := plan_keepsSplit_iff pitchesOnly _ plan .risp hp hsplit rfl
    exact ⟨plan, rfl, hsplit, hkeeps.2 (Or.inr hcount)⟩

/-- The engine of the built-in catalogue. -/
def standard : Engine where
  catalogue := .builtIn

/-- By itself the situation is lost: the standard engine answers with whole seasons. -/
theorem plan_loses_risp :
    ∃ plan, standard.plan (rispProposal []) = .ok plan ∧ plan.intent.split = some .risp ∧
      ¬ standard.KeepsSplit plan .risp := by
  have hplan : (standard.plan (rispProposal [])).toOption.any (fun plan =>
      plan.intent.split == some .risp && plan.strategy == .aggregated &&
        plan.intent.contextKey == some "season_batting") = true := by
    decide +kernel
  cases hp : standard.plan (rispProposal []) with
  | error e =>
    rw [hp] at hplan
    cases hplan
  | ok plan =>
    rw [hp] at hplan
    simp only [Except.toOption, Option.any_some, Bool.and_eq_true, beq_iff_eq] at hplan
    obtain ⟨⟨hsplit, hstrategy⟩, hcontext⟩ := hplan
    refine ⟨plan, rfl, hsplit, ?_⟩
    rintro (⟨hevent, -⟩ | ⟨-, queryType, _, context, _, -, -, rfl, hkey, -⟩)
    · rw [hstrategy] at hevent
      cases hevent
    · have hname := Option.some.inj (hcontext.symm.trans hkey)
      revert hname
      cases queryType <;> decide

end Engine

end Scorebook
