import Scorebook.Proofs.Answer.Situations
import Scorebook.Proofs.Query.Clauses

/-!
# Conditions are counted as they are written

The strategy goes by the number of situational conditions of an intent. A statement over single
pitches has just as many, besides the two that all pitches have to meet, the player and the season;
a statement over a table has no more of them. So single pitches are read for two conditions or more,
a table for one at most, and whoever asks for more is not sent back to the tables.
-/

namespace Scorebook

/-- Whether a condition is situational: it is none of the two that all single pitches have to meet,
and not on the player or the season. -/
def Condition.isSituational : Condition → Bool
  | .regularSeason | .endsAppearance | .meets .playerName _ | .meets .season _ => false
  | _ => true

/-- The situational conditions of a statement. -/
def Statement.situations (s : Statement) : List Condition :=
  s.conditions.filter Condition.isSituational

/-- Whether a placeholder is for a situational condition. -/
def Slot.isSituational : Slot → Bool
  | .playerName | .season => false
  | _ => true

/-- Each situational condition that an intent asks for is asked for by another one too, whatever
else that one asks for. -/
structure Intent.IsNarrowedBy (a b : Intent) : Prop where
  /-- The innings. -/
  innings : a.innings ≠ [] → b.innings ≠ []
  /-- The number of strikes. -/
  strikes : a.strikes ≠ none → b.strikes ≠ none
  /-- The number of balls. -/
  balls : a.balls ≠ none → b.balls ≠ none
  /-- The hand of the pitcher. -/
  pitcherHand : a.pitcherHand ≠ none → b.pitcherHand ≠ none
  /-- The types of pitches. -/
  pitchTypes : a.pitchTypes ≠ [] → b.pitchTypes ≠ []
  /-- A situation of the runners. -/
  split : ∀ split, a.split = some split → split.isSituational = true →
    ∃ other, b.split = some other ∧ other.isSituational = true
  /-- The score. -/
  score : a.score ≠ none → b.score ≠ none

/-- Where each flag of a list implies the one at its place in another, there are no fewer there. -/
theorem count_true_le {flags others : List Bool}
    (h : List.Forall₂ (fun flag other => flag = true → other = true) flags others) :
    flags.count true ≤ others.count true := by
  induction h with
  | nil => exact Nat.le_refl _
  | @cons flag other flags others himp _ ih =>
    rw [List.count_cons, List.count_cons]
    cases flag with
    | false => exact Nat.le_add_right_of_le ih
    | true =>
      obtain rfl := himp rfl
      exact Nat.add_le_add_right ih _

namespace Intent

variable {intent a b : Intent} {binding : Binding}

/-- A condition on a placeholder is situational exactly if the placeholder is. -/
theorem isSituational_meets (slot : Slot) (column : String) :
    (Condition.meets slot column).isSituational = slot.isSituational := by
  cases slot <;> rfl

/-- Over columns that exist, there is one condition for each placeholder that the intent gives
something for. -/
theorem countP_conditions {column? : Slot → Option String} {slots : List Slot}
    (hcols : ∀ value ∈ intent.valuesFor binding slots, (column? value.1).isSome) :
    ((intent.valuesFor binding slots).filterMap fun value =>
        (column? value.1).map (Condition.meets value.1)).countP Condition.isSituational =
      slots.countP fun slot => slot.isSituational && intent.gives slot := by
  rw [List.countP_filterMap, valuesFor, List.countP_filterMap]
  refine List.countP_congr fun slot hslot => ?_
  rw [← intent.isSome_value? binding]
  cases hv : intent.value? binding slot with
  | none => simp
  | some value =>
    obtain ⟨column, hc⟩ := Option.isSome_iff_exists.1
      (hcols (slot, value) (mem_valuesFor.2 ⟨hslot, hv⟩))
    simp [hc, isSituational_meets]

/-- The conditions of an intent are those on five placeholders, the runners and the score. -/
theorem conditionCount_eq (intent : Intent) :
    intent.conditionCount =
      [Slot.innings, .strikes, .balls, .pitcherThrows, .pitchTypes].countP intent.gives +
        [intent.split.any Split.isSituational, intent.score.isSome].count true := by
  have hparts : intent.conditions =
      [Slot.innings, .strikes, .balls, .pitcherThrows, .pitchTypes].map intent.gives ++
        [intent.split.any Split.isSituational, intent.score.isSome] := rfl
  rw [conditionCount, hparts, List.count_append, List.count_eq_countP, List.countP_map]
  simp only [Function.comp_def, beq_true]

/-- Whoever asks for more has no fewer conditions. -/
theorem IsNarrowedBy.conditionCount_le (h : a.IsNarrowedBy b) :
    a.conditionCount ≤ b.conditionCount := by
  have hsome {α : Type} {x y : Option α} (himp : x ≠ none → y ≠ none) :
      x.isSome = true → y.isSome = true := by
    simpa only [Option.isSome_iff_ne_none] using himp
  have hlist {α : Type} {xs ys : List α} (himp : xs ≠ [] → ys ≠ []) :
      (!xs.isEmpty) = true → (!ys.isEmpty) = true := by
    simpa only [Bool.not_eq_true', List.isEmpty_eq_false_iff] using himp
  have hsplit : a.split.any Split.isSituational = true →
      b.split.any Split.isSituational = true := by
    simpa only [Option.any_eq_true, forall_exists_index, and_imp] using h.split
  exact count_true_le <| .cons (hlist h.innings) <| .cons (hsome h.strikes) <|
    .cons (hsome h.balls) <| .cons (hsome h.pitcherHand) <| .cons (hlist h.pitchTypes) <|
    .cons hsplit <| .cons (hsome h.score) .nil

end Intent

namespace Catalogue

variable {c : Catalogue} {defaultLimit : UInt32} {intent : Intent}

/-- A statement over single pitches has as many situational conditions as the intent. -/
theorem length_situations_pitchStatement (queryType : QueryType) (master : MasterTable) :
    (c.pitchStatement defaultLimit intent queryType master).situations.length =
      intent.conditionCount := by
  have hcols : ∀ value ∈ intent.valuesFor (pitchBinding defaultLimit) MasterTable.conditionSlots,
      (master.column queryType value.1).isSome := fun value hmem =>
    MasterTable.column_isSome (Intent.mem_valuesFor.1 hmem).1
  have hslots : (MasterTable.conditionSlots.countP fun slot =>
      slot.isSituational && intent.gives slot) =
        [Slot.innings, .strikes, .balls, .pitcherThrows, .pitchTypes].countP intent.gives := rfl
  have hafter : (((intent.split.bind Split.runners?).map Condition.runners).toList ++
      (intent.score.map Condition.score).toList).countP Condition.isSituational =
        [intent.split.any Split.isSituational, intent.score.isSome].count true := by
    cases intent.score <;> cases intent.split with
    | none => rfl
    | some split => cases split <;> rfl
  have hfixed : [Condition.regularSeason, .endsAppearance].countP Condition.isSituational = 0 := rfl
  rw [Statement.situations, ← List.countP_eq_length_filter, pitchStatement, MasterTable.conditions,
    List.append_assoc, List.countP_append, List.countP_append, hfixed,
    Intent.countP_conditions hcols, hslots, hafter, Nat.zero_add, intent.conditionCount_eq]

/-- A statement over a table has no more situational conditions than the intent. -/
theorem length_situations_tableStatement_le {table : Table} {metrics : List String}
    {context : String}
    (hcols : ∀ value ∈ intent.valuesFor (tableBinding defaultLimit) Table.conditionSlots,
      (table.column? value.1).isSome) :
    (c.tableStatement defaultLimit intent metrics context table).situations.length ≤
      intent.conditionCount := by
  have hslots : (Table.conditionSlots.countP fun slot =>
      slot.isSituational && intent.gives slot) =
        ([Slot.innings, .pitcherThrows, .pitchTypes, .strikes, .balls] ++ [Slot.gameScore]).countP
          intent.gives := rfl
  have hperm : [Slot.innings, .pitcherThrows, .pitchTypes, .strikes, .balls].Perm
      [.innings, .strikes, .balls, .pitcherThrows, .pitchTypes] := by
    decide
  have hscore : [Slot.gameScore].countP intent.gives = [intent.score.isSome].count true := by
    cases hs : intent.score <;> simp [Intent.gives, hs]
  have hlast : [intent.score.isSome].count true ≤
      [intent.split.any Split.isSituational, intent.score.isSome].count true :=
    (List.sublist_cons_self ..).count_le true
  rw [Statement.situations, ← List.countP_eq_length_filter, tableStatement, Table.conditions,
    Intent.countP_conditions hcols, hslots, List.countP_append, hperm.countP_eq, hscore,
    intent.conditionCount_eq]
  exact Nat.add_le_add_left hlast _

/-- The conditions that the strategy goes by are those of the statement over single pitches. So a
plan over single pitches has two of them or more and a plan over a table at most one, and an intent
that is answered from single pitches stays there when more is asked for. -/
theorem strategy_counts_conditions (c : Catalogue) (settings : EngineSettings) :
    (∀ (defaultLimit : UInt32) (intent : Intent) (queryType : QueryType) (master : MasterTable),
      intent.queryType = some queryType → c.master = some master →
      ∃ s, c.eventLevel defaultLimit intent = .ok s ∧
        s.situations.length = intent.conditionCount) ∧
    (∀ (proposal : Json) (plan : Plan), Engine.plan ⟨c, settings⟩ proposal = .ok plan →
      ∃ s, c.statement plan.strategy settings.defaultLimit plan.intent = .ok s ∧
        plan.query = s.query ∧ plan.query.sql = s.clauses.text ∧
        (plan.strategy = .eventLevel → 2 ≤ s.situations.length) ∧
        (plan.strategy = .aggregated → s.situations.length ≤ 1)) ∧
    ∀ a b : Intent, a.IsNarrowedBy b → a.strategy = .eventLevel → b.strategy = .eventLevel := by
  refine ⟨fun defaultLimit intent queryType master hq hm => ?_, fun proposal plan h => ?_,
    fun a b hab ha => ?_⟩
  · exact ⟨_, eventLevel_eq_ok_iff.2 ⟨queryType, master, hq, hm, rfl⟩,
      length_situations_pitchStatement queryType master⟩
  · obtain ⟨-, hstrategy, hcompile⟩ := Engine.plan_eq_ok_iff.1 h
    rw [← hstrategy] at hcompile
    obtain ⟨s, hs, hquery⟩ := compile_eq_ok_iff.1 hcompile
    refine ⟨s, hs, hquery, hquery ▸ s.query_sql, fun hevent => ?_, fun haggregated => ?_⟩
    · rw [hevent] at hs hstrategy
      obtain ⟨queryType, master, -, -, rfl⟩ := eventLevel_eq_ok_iff.1 hs
      rw [length_situations_pitchStatement]
      exact Intent.strategy_eq_eventLevel_iff.1 hstrategy.symm
    · rw [haggregated] at hs hstrategy
      obtain ⟨metrics, context, table, -, -, -, -, hcols, rfl⟩ := aggregated_eq_ok_iff.1 hs
      have hfew : ¬ 2 ≤ plan.intent.conditionCount := fun hcount => by
        rw [Intent.strategy_eq_eventLevel_iff.2 hcount] at hstrategy
        cases hstrategy
      exact Nat.le_trans (length_situations_tableStatement_le hcols)
        (Nat.le_of_lt_succ (Nat.lt_of_not_le hfew))
  · exact Intent.strategy_eq_eventLevel_iff.2
      (Nat.le_trans (Intent.strategy_eq_eventLevel_iff.1 ha) hab.conditionCount_le)

end Catalogue

/-- Home runs in the ninth inning with runners in scoring position. -/
def Intent.ninthRisp : Intent where
  queryType := some .seasonBatting
  split := some .risp
  metrics := some ["homerun"]
  innings := [9]

/-- The same with two strikes. -/
def Intent.ninthRispTwoStrikes : Intent :=
  { ninthRisp with strikes := some 2 }

/-- An inning and a situation of the runners are two conditions of a query over single pitches; with
two strikes there are three, over single pitches again. -/
theorem Catalogue.pitchesOnly_counts_conditions :
    (∃ (plan : Plan) (s : Statement),
      Engine.pitchesOnly.plan (rispProposal [("inning", .int 9)]) = .ok plan ∧
        plan.query = s.query ∧ 2 ≤ s.situations.length) ∧
    (∃ s, Engine.pitchesOnly.catalogue.eventLevel 100 .ninthRispTwoStrikes = .ok s ∧
      s.situations.length = 3) ∧
    Intent.ninthRispTwoStrikes.strategy = .eventLevel := by
  obtain ⟨hcounts, hplans, hnarrowed⟩ :=
    strategy_counts_conditions Engine.pitchesOnly.catalogue {}
  have hstrategy : (Engine.pitchesOnly.plan (rispProposal [("inning", .int 9)])).toOption.map
      Plan.strategy = some .eventLevel := by
    decide +kernel
  obtain ⟨plan, hplan, hevent⟩ := exists_of_toOption_map hstrategy
  obtain ⟨s, -, hquery, -, hmany, -⟩ := hplans _ plan hplan
  have hmore : Intent.ninthRisp.IsNarrowedBy .ninthRispTwoStrikes := by
    refine ⟨id, fun _ => ?_, id, id, id, fun split hsplit hsituation => ?_, id⟩
    · exact Option.some_ne_none 2
    · exact ⟨split, hsplit, hsituation⟩
  exact ⟨⟨plan, s, hplan, hquery, hmany hevent⟩,
    hcounts 100 .ninthRispTwoStrikes .seasonBatting _ rfl rfl,
    hnarrowed .ninthRisp .ninthRispTwoStrikes hmore rfl⟩

end Scorebook
