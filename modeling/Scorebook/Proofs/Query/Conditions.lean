import Mathlib.Data.List.Basic
import Scorebook.Catalogue.BuiltIn
import Scorebook.Proofs.Query.Clauses
import Scorebook.Proofs.Query.Compile

/-!
# The conditions of a query are those that were requested

What an intent requests of the rows is listed here once more, apart from the way in which statements
are built: for each request the column that it is on, how it reads in SQL, and the value that is
given. A query has one condition for each request and no others, and its values are those of the
requests and the limit.
-/

namespace Scorebook

/-- Something that an intent may request of the rows. -/
structure Request where
  /-- The name of the placeholder. -/
  name : String
  /-- The column that the request is on, if there is such a column. -/
  column : Option String
  /-- How a column and a placeholder are compared. -/
  test : String → String → String
  /-- The value, if the request is made. -/
  value : Option Json

namespace Request

/-- The text occurs in the column, whatever the case of the letters. -/
def part (name : String) (column : Option String) (value : Option String) : Request where
  name := name
  column := column
  test column mark := "LOWER(" ++ column ++ ") LIKE CONCAT('%', LOWER(" ++ mark ++ "), '%')"
  value := value.map .str

/-- The column has the value. -/
def one (name : String) (column : Option String) (value : Option Json) : Request where
  name := name
  column := column
  test column mark := column ++ " = " ++ mark
  value := value

/-- The column has one of the values; no values make no request. -/
def several (name : String) (column : Option String) (values : List Json) : Request where
  name := name
  column := column
  test column mark := column ++ " IN UNNEST(" ++ mark ++ ")"
  value := if values.isEmpty then none else some (.arr values)

/-- Whether the request is made. -/
def asked (r : Request) : Bool := r.value.isSome

/-- The condition on the column. -/
def condition? (r : Request) : Option String :=
  r.column.map fun column => r.test column ("@" ++ r.name)

/-- The value under its name. -/
def pair? (r : Request) : Option (String × Json) := r.value.map (r.name, ·)

end Request

/-- What is requested of the rows of a table. -/
structure Criteria where
  /-- The table. -/
  source : String
  /-- The conditions in front, without values. -/
  before : List String := []
  /-- The requests on columns, each made or not. -/
  requests : List Request
  /-- The conditions behind, without values. -/
  after : List String := []

namespace Criteria

/-- One condition for each request that is made; it is missing if its column is. -/
def conditions (criteria : Criteria) : List (Option String) :=
  criteria.before.map some ++ (criteria.requests.filter Request.asked).map Request.condition?
    ++ criteria.after.map some

/-- The values that are given, under their names. -/
def given (criteria : Criteria) (limit : UInt32) : List (String × Json) :=
  criteria.requests.filterMap Request.pair? ++ [("limit", .int limit.toNat)]

end Criteria

/-- What an intent requests of a table of statistics. -/
def Table.criteria (table : Table) (intent : Intent) : Criteria where
  source := table.source
  requests :=
    [.part "player_name" (some table.nameCol) intent.subjectName,
     .one "season" table.yearCol (intent.season.map fun n => .int n.toInt),
     .several "innings" table.filters.inning (intent.innings.map fun n => .int n.toNat),
     .one "pitcher_throws" table.filters.pitcherThrows (intent.pitcherHand.map fun
       | .right => .str "RHP"
       | .left => .str "LHP"),
     .several "pitch_types" table.filters.pitchType (intent.pitchTypes.map .str),
     .one "strikes" table.filters.strikes (intent.strikes.map fun n => .int n.toNat),
     .one "balls" table.filters.balls (intent.balls.map fun n => .int n.toNat),
     .one "game_score" table.filters.gameScore
       (intent.score.map fun bucket => .str (Vocabulary.name bucket))]

/-- What a split requests of the runners on base; most request nothing. -/
def Split.runnerTests : Split → List String
  | .risp => ["(on_2b IS NOT NULL OR on_3b IS NOT NULL)"]
  | .basesLoaded => ["(on_1b IS NOT NULL AND on_2b IS NOT NULL AND on_3b IS NOT NULL)"]
  | .runnerOnFirst => ["(on_1b IS NOT NULL AND on_2b IS NULL AND on_3b IS NULL)"]
  | _ => []

/-- What a bucket requests of the score, which is that of the side at bat and that of the side in
the field. -/
def ScoreBucket.test : ScoreBucket → String
  | .tied => "bat_score = fld_score"
  | .leading => "bat_score > fld_score"
  | .trailing => "bat_score < fld_score"
  | .leadingBy1 => "bat_score - fld_score = 1"
  | .leadingBy2 => "bat_score - fld_score = 2"
  | .leadingBy3Plus => "bat_score - fld_score >= 3"
  | .trailingBy1 => "fld_score - bat_score = 1"
  | .trailingBy2 => "fld_score - bat_score = 2"
  | .trailingBy3Plus => "fld_score - bat_score >= 3"
  | .within1 => "ABS(bat_score - fld_score) <= 1"
  | .within2 => "ABS(bat_score - fld_score) <= 2"
  | .lateAndClose => "(inning >= 7 AND ABS(bat_score - fld_score) <= 1)"
  | .blowout => "ABS(bat_score - fld_score) >= 5"

/-- The column of the player that a question is about. -/
def MasterTable.playerCol (master : MasterTable) : QueryType → String
  | .seasonPitching | .pitchingSplits => master.pitcherCol
  | .seasonBatting | .careerBatting | .battingSplits => master.batterCol

/-- What an intent requests of single pitches. -/
def MasterTable.criteria (master : MasterTable) (queryType : QueryType) (intent : Intent) :
    Criteria where
  source := master.source
  before := ["game_type = 'R'", "events IS NOT NULL"]
  requests :=
    [.part "player_name" (some (master.playerCol queryType)) intent.subjectName,
     .one "season" (some master.seasonCol) (intent.season.map fun n => .int n.toInt),
     .several "innings" (some "inning") (intent.innings.map fun n => .int n.toNat),
     .one "strikes" (some "strikes") (intent.strikes.map fun n => .int n.toNat),
     .one "balls" (some "balls") (intent.balls.map fun n => .int n.toNat),
     .one "pitcher_throws" (some "p_throws") (intent.pitcherHand.map fun
       | .right => .str "R"
       | .left => .str "L"),
     .several "pitch_types" (some "pitch_name") (intent.pitchTypes.map .str)]
  after := intent.split.toList.flatMap Split.runnerTests ++ intent.score.toList.map ScoreBucket.test

/-- What an intent requests of the table that a strategy reads, if there is such a table. -/
def Catalogue.criteria? (c : Catalogue) (strategy : Strategy) (intent : Intent) :
    Option Criteria :=
  match strategy with
  | .aggregated => do
    let table ← c.table? (← intent.contextKey)
    return table.criteria intent
  | .eventLevel => do
    let master ← c.master
    return master.criteria (← intent.queryType) intent

/-- A request stands for a placeholder: it has the same name, is on the same column, reads alike and
gives the same value. -/
structure Request.StandsFor (column? : Slot → Option String) (value? : Slot → Option Param)
    (r : Request) (slot : Slot) : Prop where
  name : Vocabulary.name slot = r.name
  column : column? slot = r.column
  test : ∀ column, slot.condition column = r.test column slot.mark
  value : (value? slot).map Param.toJson = r.value

namespace Request

variable {column? : Slot → Option String} {value? : Slot → Option Param} {requests : List Request}
  {slots : List Slot}

/-- The conditions on the placeholders that have values are those of the requests that are made. -/
theorem conditions_eq (h : List.Forall₂ (StandsFor column? value?) requests slots)
    (hcols : ∀ slot ∈ slots, (value? slot).isSome → (column? slot).isSome) :
    ((slots.filterMap fun slot => (value? slot).map (slot, ·)).filterMap fun value =>
        (column? value.1).map (Condition.meets value.1)).map (fun k => some k.sql) =
      (requests.filter asked).map condition? := by
  induction h with
  | nil => rfl
  | @cons r slot requests slots hr _ ih =>
    have hrest := ih fun other hm => hcols other (List.mem_cons_of_mem _ hm)
    have hvalue := hr.value
    rw [List.filterMap_cons, List.filter_cons]
    cases hv : value? slot with
    | none =>
      have hasked : r.asked = false := by
        rw [asked, ← hvalue, hv]
        rfl
      rw [hasked]
      exact hrest
    | some value =>
      have hasked : r.asked = true := by
        rw [asked, ← hvalue, hv]
        rfl
      have hcol : (column? slot).isSome := hcols slot List.mem_cons_self (by rw [hv]; rfl)
      obtain ⟨column, hc⟩ := Option.isSome_iff_exists.1 hcol
      have hcondition : some (Condition.meets slot column).sql = r.condition? := by
        rw [condition?, ← hr.column, hc, Option.map_some, ← hr.name]
        exact congrArg some (hr.test column)
      rw [hasked, if_pos rfl, List.map_cons, ← hrest, ← hcondition, Option.map_some,
        List.filterMap_cons]
      simp only [hc, Option.map_some, List.map_cons]

/-- The values that the requests give are those of the placeholders. -/
theorem mem_pairs_iff (h : List.Forall₂ (StandsFor column? value?) requests slots)
    {name : String} {json : Json} :
    (name, json) ∈ requests.filterMap pair? ↔
      ∃ slot ∈ slots, Vocabulary.name slot = name ∧ (value? slot).map Param.toJson = some json := by
  induction h with
  | nil => simp
  | @cons r slot requests slots hr _ ih =>
    have hentry : r.pair? = some (name, json) ↔
        Vocabulary.name slot = name ∧ (value? slot).map Param.toJson = some json := by
      rw [pair?, hr.value, hr.name, Option.map_eq_some_iff]
      constructor
      · rintro ⟨value, hv, he⟩
        obtain ⟨hn, rfl⟩ := Prod.mk.injEq .. ▸ he
        exact ⟨hn, hv⟩
      · rintro ⟨rfl, hv⟩
        exact ⟨json, hv, rfl⟩
    rw [List.mem_filterMap, List.exists_mem_cons_iff, hentry, ← List.mem_filterMap, ih,
      List.exists_mem_cons_iff]

end Request

/-- A number that fits keeps its value in JSON. -/
theorem Param.intJson_ofNat {n : Nat} (h : n < 0x8000000000000000) :
    intJson (Int64.ofNat n) = .int n := by
  rw [intJson, Int64.toInt_ofNat_of_lt h]

namespace Intent

variable (intent : Intent) (binding : Binding)

/-- The name of the player is given as it is. -/
theorem subjectName_toJson : (intent.value? binding .playerName).map Param.toJson =
    intent.subjectName.map .str := by
  rw [value?, Option.map_map]
  rfl

/-- The season is given as it is. -/
theorem season_toJson : (intent.value? binding .season).map Param.toJson =
    intent.season.map fun n => .int n.toInt := by
  rw [value?, Option.map_map]
  congr 1
  funext n
  exact congrArg Json.int n.toInt_toInt64

/-- The innings are given as they are, unless there are none. -/
theorem innings_toJson : (intent.value? binding .innings).map Param.toJson =
    if (intent.innings.map fun n => Json.int n.toNat).isEmpty then none
    else some (.arr (intent.innings.map fun n => .int n.toNat)) := by
  have hitems : (intent.innings.map fun n => Int64.ofNat n.toNat).map Param.intJson =
      intent.innings.map fun n => .int n.toNat := by
    rw [List.map_map]
    refine List.map_congr_left fun n _ => Param.intJson_ofNat ?_
    exact Nat.lt_trans n.toNat_lt (by decide)
  rw [value?, List.isEmpty_map]
  split
  · rfl
  · rw [Option.map_some, Param.toJson, hitems]

/-- The types of pitches are given as they are, unless there are none. -/
theorem pitchTypes_toJson : (intent.value? binding .pitchTypes).map Param.toJson =
    if (intent.pitchTypes.map Json.str).isEmpty then none
    else some (.arr (intent.pitchTypes.map .str)) := by
  rw [value?, List.isEmpty_map]
  split <;> rfl

/-- The hand of the pitcher is given as the data has it. -/
theorem pitcherHand_toJson : (intent.value? binding .pitcherThrows).map Param.toJson =
    intent.pitcherHand.map fun hand => .str (binding.handText hand) := by
  rw [value?, Option.map_map]
  rfl

/-- A count is given as it is. -/
theorem count_toJson (count : Option UInt8) :
    (count.map fun n => Param.int (Int64.ofNat n.toNat)).map Param.toJson =
      count.map fun n => .int n.toNat := by
  rw [Option.map_map]
  congr 1
  funext n
  exact Param.intJson_ofNat (Nat.lt_trans n.toNat_lt (by decide))

/-- The bucket of the score is given by its name. -/
theorem score_toJson : (intent.value? binding .gameScore).map Param.toJson =
    intent.score.map fun bucket => .str (Vocabulary.name bucket) := by
  rw [value?, Option.map_map]
  rfl

/-- The limit is that of the intent, or else the default. -/
theorem limit_toJson : (intent.value? binding .limit).map Param.toJson =
    some (.int (intent.limit.getD binding.defaultLimit).toNat) := by
  rw [value?, Option.map_some]
  exact congrArg some (Param.intJson_ofNat (Nat.lt_trans (UInt32.toNat_lt _) (by decide)))

end Intent

/-- Over tables, the requests stand for the placeholders in their order. -/
theorem Table.criteria_standsFor (table : Table) (intent : Intent) (defaultLimit : UInt32) :
    List.Forall₂ (Request.StandsFor table.column?
        (intent.value? (Catalogue.tableBinding defaultLimit)))
      (table.criteria intent).requests conditionSlots := by
  have hhand : (intent.value? (Catalogue.tableBinding defaultLimit) .pitcherThrows).map
      Param.toJson = intent.pitcherHand.map fun
        | .right => .str "RHP"
        | .left => .str "LHP" := by
    rw [intent.pitcherHand_toJson]
    congr 1
    funext hand
    cases hand <;> rfl
  exact .cons ⟨rfl, rfl, fun _ => rfl, intent.subjectName_toJson _⟩ <|
    .cons ⟨rfl, rfl, fun _ => rfl, intent.season_toJson _⟩ <|
    .cons ⟨rfl, rfl, fun _ => rfl, intent.innings_toJson _⟩ <|
    .cons ⟨rfl, rfl, fun _ => rfl, hhand⟩ <|
    .cons ⟨rfl, rfl, fun _ => rfl, intent.pitchTypes_toJson _⟩ <|
    .cons ⟨rfl, rfl, fun _ => rfl, Intent.count_toJson intent.strikes⟩ <|
    .cons ⟨rfl, rfl, fun _ => rfl, Intent.count_toJson intent.balls⟩ <|
    .cons ⟨rfl, rfl, fun _ => rfl, intent.score_toJson _⟩ .nil

/-- Over single pitches, they do so in another order, and the score has no placeholder. -/
theorem MasterTable.criteria_standsFor (master : MasterTable) (queryType : QueryType)
    (intent : Intent) (defaultLimit : UInt32) :
    List.Forall₂ (Request.StandsFor (master.column queryType)
        (intent.value? (Catalogue.pitchBinding defaultLimit)))
      (master.criteria queryType intent).requests conditionSlots := by
  have hhand : (intent.value? (Catalogue.pitchBinding defaultLimit) .pitcherThrows).map
      Param.toJson = intent.pitcherHand.map fun
        | .right => .str "R"
        | .left => .str "L" := by
    rw [intent.pitcherHand_toJson]
    congr 1
    funext hand
    cases hand <;> rfl
  have hplayer : master.column queryType .playerName = some (master.playerCol queryType) := by
    cases queryType <;> rfl
  exact .cons ⟨rfl, hplayer, fun _ => rfl, intent.subjectName_toJson _⟩ <|
    .cons ⟨rfl, rfl, fun _ => rfl, intent.season_toJson _⟩ <|
    .cons ⟨rfl, rfl, fun _ => rfl, intent.innings_toJson _⟩ <|
    .cons ⟨rfl, rfl, fun _ => rfl, Intent.count_toJson intent.strikes⟩ <|
    .cons ⟨rfl, rfl, fun _ => rfl, Intent.count_toJson intent.balls⟩ <|
    .cons ⟨rfl, rfl, fun _ => rfl, hhand⟩ <|
    .cons ⟨rfl, rfl, fun _ => rfl, intent.pitchTypes_toJson _⟩ .nil

/-- The placeholders of the requests and the limit have the values that are given. -/
theorem Criteria.mem_given_iff {criteria : Criteria} {intent : Intent} {binding : Binding}
    {column? : Slot → Option String} {slots : List Slot}
    (h : List.Forall₂ (Request.StandsFor column? (intent.value? binding)) criteria.requests slots)
    {name : String} {json : Json} :
    (name, json) ∈ criteria.given (intent.limit.getD binding.defaultLimit) ↔
      ∃ slot ∈ slots ++ [.limit], Vocabulary.name slot = name ∧
        (intent.value? binding slot).map Param.toJson = some json := by
  have hlimit : (name, json) =
        ("limit", Json.int (intent.limit.getD binding.defaultLimit).toNat) ↔
      Vocabulary.name Slot.limit = name ∧
        (intent.value? binding .limit).map Param.toJson = some json := by
    rw [intent.limit_toJson, Option.some.injEq, Prod.mk.injEq]
    exact and_congr eq_comm eq_comm
  rw [given, List.mem_append, List.mem_singleton, Request.mem_pairs_iff h, hlimit]
  simp only [List.mem_append, List.mem_singleton, or_and_right, exists_or, exists_eq_left]

/-- A query has exactly the values that its criteria give. -/
theorem Criteria.param?_iff {criteria : Criteria} {s : Statement} {intent : Intent}
    {binding : Binding} {column? : Slot → Option String} {slots : List Slot}
    (hvalues : s.values = intent.valuesFor binding (slots ++ [.limit]))
    (h : List.Forall₂ (Request.StandsFor column? (intent.value? binding)) criteria.requests slots)
    (name : String) (json : Json) :
    (s.query.param? name).map Param.toJson = some json ↔
      (name, json) ∈ criteria.given (intent.limit.getD binding.defaultLimit) := by
  rw [mem_given_iff h, Option.map_eq_some_iff]
  simp only [Statement.query_param?_iff hvalues, Option.map_eq_some_iff]
  constructor
  · rintro ⟨value, ⟨slot, hslot, hname, hv⟩, hjson⟩
    exact ⟨slot, hslot, hname, value, hv, hjson⟩
  · rintro ⟨slot, hslot, hname, value, hv, hjson⟩
    exact ⟨value, ⟨slot, hslot, hname, hv⟩, hjson⟩

namespace Catalogue

/-- The runners and the score are requested as the statement has them. -/
theorem after_eq (master : MasterTable) (queryType : QueryType) (intent : Intent) :
    (((intent.split.bind Split.runners?).map Condition.runners).toList ++
        (intent.score.map Condition.score).toList).map (fun k => some k.sql) =
      (master.criteria queryType intent).after.map some := by
  have hrunners : ((intent.split.bind Split.runners?).map Condition.runners).toList.map
      (fun k => some k.sql) =
        (intent.split.toList.flatMap Split.runnerTests).map some := by
    cases intent.split with
    | none => rfl
    | some split => cases split <;> rfl
  have hscore : (intent.score.map Condition.score).toList.map (fun k => some k.sql) =
      (intent.score.toList.map ScoreBucket.test).map some := by
    cases intent.score with
    | none => rfl
    | some bucket => cases bucket <;> rfl
  rw [MasterTable.criteria, List.map_append, hrunners, hscore, ← List.map_append]

/-- Over tables and over single pitches, a query has one condition for each request that its intent
makes and no others, each on the column of the table that it reads, and these are the conditions in
its text; its values are those of the requests, unchanged, and the limit of the intent or else the
default. -/
theorem compile_conditions (c : Catalogue) (strategy : Strategy) (defaultLimit : UInt32)
    (intent : Intent) (q : Query) (h : c.compile strategy defaultLimit intent = .ok q) :
    ∃ (criteria : Criteria) (s : Statement),
      c.statement strategy defaultLimit intent = .ok s ∧ q = s.query ∧
      q.sql = s.clauses.text ∧ c.criteria? strategy intent = some criteria ∧
      s.clauses.source = criteria.source ∧
      s.clauses.conditions.map some = criteria.conditions ∧
      ∀ name json, (q.param? name).map Param.toJson = some json ↔
        (name, json) ∈ criteria.given (intent.limit.getD defaultLimit) := by
  obtain ⟨s, hs, rfl⟩ := compile_eq_ok_iff.1 h
  have hvalues := statement_values hs
  cases strategy with
  | aggregated =>
    obtain ⟨metrics, context, table, -, hk, ht, -, hcols, rfl⟩ := aggregated_eq_ok_iff.1 hs
    have hstands := table.criteria_standsFor intent defaultLimit
    refine ⟨table.criteria intent, _, hs, rfl, Statement.query_sql _, ?_, rfl, ?_,
      Criteria.param?_iff hvalues hstands⟩
    · simp [criteria?, hk, ht]
    · have hc := Request.conditions_eq hstands fun slot hslot hv => by
        obtain ⟨value, hv⟩ := Option.isSome_iff_exists.1 hv
        exact hcols (slot, value) (Intent.mem_valuesFor.2 ⟨hslot, hv⟩)
      rw [Statement.clauses, List.map_map]
      exact hc.trans (List.append_nil _).symm
  | eventLevel =>
    obtain ⟨queryType, master, hq, hm, rfl⟩ := eventLevel_eq_ok_iff.1 hs
    have hstands := master.criteria_standsFor queryType intent defaultLimit
    refine ⟨master.criteria queryType intent, _, hs, rfl, Statement.query_sql _, ?_, rfl, ?_,
      Criteria.param?_iff hvalues hstands⟩
    · simp [criteria?, hq, hm]
    · have hc := Request.conditions_eq hstands fun _ hslot _ => MasterTable.column_isSome hslot
      have hafter := after_eq master queryType intent
      rw [List.map_append] at hafter
      rw [Statement.clauses, List.map_map]
      simp only [pitchStatement, MasterTable.conditions, List.map_append, List.append_assoc,
        Function.comp_def, hafter]
      exact congrArg (_ ++ ·) (congrArg (· ++ _) hc)

end Catalogue

/-- The home runs off left-handed pitchers late in the game, with runners in scoring position. -/
def Intent.lateRisp : Intent where
  queryType := some .seasonBatting
  split := some .risp
  metrics := some ["homerun"]
  innings := [8, 9]
  pitcherHand := some .left

/-- All three conditions are kept, and the hand is given as the single pitches have it. -/
theorem Catalogue.compile_conditions_lateRisp :
    ∃ (q : Query) (s : Statement), builtIn.compile .eventLevel 10 .lateRisp = .ok q ∧
      q = s.query ∧ q.sql = s.clauses.text ∧
      s.clauses.conditions.map some =
        [some "game_type = 'R'", some "events IS NOT NULL", some "inning IN UNNEST(@innings)",
         some "p_throws = @pitcher_throws",
         some "(on_2b IS NOT NULL OR on_3b IS NOT NULL)"] ∧
      (q.param? "pitcher_throws").map Param.toJson = some (.str "L") := by
  obtain ⟨criteria, s, -, hq, htext, hcriteria, -, hconditions, hparams⟩ :=
    compile_conditions builtIn .eventLevel 10 .lateRisp _ rfl
  obtain rfl := Option.some.inj hcriteria
  exact ⟨_, s, rfl, hq, htext, hconditions.trans rfl, (hparams _ _).2 (by simp [Criteria.given,
    MasterTable.criteria, Request.pair?, Request.one, Intent.lateRisp])⟩

end Scorebook
