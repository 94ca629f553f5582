import Scorebook.Catalogue.BuiltIn
import Scorebook.Proofs.Intent.Fields

/-!
# Which proposals are accepted, and as what

A proposal is accepted exactly if it is an object and each field that it gives has a value of its
kind. The intent then has these very values: numbers are not cut to a width, fields that are missing
or `null` are absent, and of a list every value is kept once, where it stands first.
-/

namespace Scorebook

/-- The values that a field may have. -/
def Catalogue.AdmitsValue (c : Catalogue) (value : Json) : IntentField → Prop
  | .subjectName => ∃ name, value = .str name ∧ (name = "" ∨ IsPlayerName name)
  | .season => value.IsWhole 1900 2100
  | .queryType => value.IsTerm QueryType
  | .splitType => value.IsTerm Split
  | .metrics => ∃ metrics, value = Json.strings metrics ∧ c.IsMetricList metrics
  | .orderBy => ∃ metric, value = .str metric ∧ c.knowsMetric metric = true
  | .pitcherThrows => value.IsTerm Hand
  | .inning => value.IsOneOrMany (Json.IsWhole 1 9)
  | .strikes => value.IsWhole 0 3
  | .balls => value.IsWhole 0 3
  | .pitchType => value.IsOneOrMany fun item => ∃ name, item = .str name ∧ IsPitchName name
  | .gameScore => value.IsTerm ScoreBucket
  | .limit => value.IsWhole 1 1000
  | .outputFormat => value.IsTerm OutputFormat ∨ value = .str "sentence"

/-- A proposal is an object, and each field that it gives has a value that the field may have. -/
def Catalogue.Admits (c : Catalogue) (proposal : Json) : Prop :=
  (∃ fields, proposal = .obj fields) ∧
    ∀ field value, proposal.Gives field value → c.AdmitsValue value field

/-- The parts of an intent are what a proposal gives: each value unchanged, nothing for a field that
is not given, and of the listed values the first of each. -/
structure Intent.IsNormalFormOf (intent : Intent) (proposal : Json) : Prop where
  /-- The family of statistics is the one named. -/
  queryType : ∀ queryType, intent.queryType = some queryType ↔
    proposal.Gives .queryType (.str (Vocabulary.name queryType))
  /-- The split is the one named. -/
  split : ∀ split, intent.split = some split ↔
    proposal.Gives .splitType (.str (Vocabulary.name split))
  /-- The metrics are those listed, in the same order and with repetitions. -/
  metrics : ∀ metrics, intent.metrics = some metrics ↔
    proposal.Gives .metrics (Json.strings metrics)
  /-- The name of the player is the one given, unless that is empty. -/
  subjectName : ∀ name, intent.subjectName = some name ↔
    name ≠ "" ∧ proposal.Gives .subjectName (.str name)
  /-- The season is the number given. -/
  season : ∀ n : Int, intent.season.map Int32.toInt = some n ↔ proposal.Gives .season (.int n)
  /-- The innings are the numbers listed. -/
  innings : ∃ listed : List Int, proposal.Lists .inning (listed.map .int) ∧
    KeepsFirst listed (intent.innings.map fun n => (n.toNat : Int))
  /-- The strikes are the number given. -/
  strikes : ∀ n : Int, (intent.strikes.map fun k => (k.toNat : Int)) = some n ↔
    proposal.Gives .strikes (.int n)
  /-- The balls are the number given. -/
  balls : ∀ n : Int, (intent.balls.map fun k => (k.toNat : Int)) = some n ↔
    proposal.Gives .balls (.int n)
  /-- The hand of the pitcher is the one named. -/
  pitcherHand : ∀ hand, intent.pitcherHand = some hand ↔
    proposal.Gives .pitcherThrows (.str (Vocabulary.name hand))
  /-- The types of pitch are those listed. -/
  pitchTypes : ∃ listed : List String, proposal.Lists .pitchType (listed.map .str) ∧
    KeepsFirst listed intent.pitchTypes
  /-- The bucket of the score is the one named. -/
  score : ∀ bucket, intent.score = some bucket ↔
    proposal.Gives .gameScore (.str (Vocabulary.name bucket))
  /-- The key to sort by is the one given. -/
  orderBy : ∀ metric, intent.orderBy = some metric ↔ proposal.Gives .orderBy (.str metric)
  /-- The number of rows is the number given. -/
  limit : ∀ n : Int, (intent.limit.map fun k => (k.toNat : Int)) = some n ↔
    proposal.Gives .limit (.int n)
  /-- The answer is a table exactly if a table is asked for. -/
  format : intent.format = .table ↔
    proposal.Gives .outputFormat (.str (Vocabulary.name OutputFormat.table))

namespace Intent

/-- The ranges of the numbers of an intent lie within 64 bits. -/
theorem seasonValue_accepts :
    Accepts (intInRange seasonRange) .int fun n => 1900 ≤ n ∧ n ≤ 2100 :=
  intInRange_accepts (by decide) (by decide)

theorem inningValue_accepts : Accepts (intInRange inningRange) .int fun n => 1 ≤ n ∧ n ≤ 9 :=
  intInRange_accepts (by decide) (by decide)

theorem countValue_accepts : Accepts (intInRange countRange) .int fun n => 0 ≤ n ∧ n ≤ 3 :=
  intInRange_accepts (by decide) (by decide)

theorem limitValue_accepts : Accepts (intInRange limitRange) .int fun n => 1 ≤ n ∧ n ≤ 1000 :=
  intInRange_accepts (by decide) (by decide)

/-- What is kept in another form and comes back is unchanged. -/
theorem map_map_of_mem {α β : Type} {f : α → β} {g : β → α} {x : Option α}
    (h : ∀ a ∈ x, g (f a) = a) : (x.map f).map g = x := by
  cases x with
  | none => rfl
  | some a => exact congrArg some (h a rfl)

/-- A season fits into 32 bits with a sign. -/
theorem toInt_season {n : Int} (h : 1900 ≤ n ∧ n ≤ 2100) : (Int32.ofInt n).toInt = n :=
  Int32.toInt_ofInt_of_le (by omega) (by omega)

/-- An inning, or a count, fits into 8 bits. -/
theorem toNat_octet {n : Int} (h : 0 ≤ n ∧ n ≤ 9) : ((UInt8.ofNat n.toNat).toNat : Int) = n := by
  have hsize : n.toNat < UInt8.size := by
    have h256 : UInt8.size = 256 := rfl
    omega
  rw [UInt8.toNat_ofNat_of_lt' hsize]
  exact Int.toNat_of_nonneg h.1

/-- A number of rows fits into 32 bits. -/
theorem toNat_limit {n : Int} (h : 1 ≤ n ∧ n ≤ 1000) :
    ((UInt32.ofNat n.toNat).toNat : Int) = n := by
  have hsize : n.toNat < UInt32.size := by
    have h32 : UInt32.size = 4294967296 := rfl
    omega
  rw [UInt32.toNat_ofNat_of_lt' hsize]
  exact Int.toNat_of_nonneg (by omega)

end Intent

open Intent in
/-- The parts of an intent are the results of the checks of the fields, one for each field. The
numbers are those that were read, whatever the width they are kept in. -/
structure Catalogue.Reads (c : Catalogue) (fields : List (String × Json)) (intent : Intent) :
    Prop where
  /-- The name of the player. -/
  subjectName : whenPresent none nameValue fields .subjectName = .ok intent.subjectName
  /-- The season. -/
  season : optional (intInRange seasonRange) fields .season = .ok (intent.season.map Int32.toInt)
  /-- The family of statistics. -/
  queryType : optional (termValue Vocabulary.ofName?) fields .queryType = .ok intent.queryType
  /-- The split. -/
  split : optional (termValue Vocabulary.ofName?) fields .splitType = .ok intent.split
  /-- The metrics. -/
  metrics : optional (metricsValue c) fields .metrics = .ok intent.metrics
  /-- The key to sort by. -/
  orderBy : optional (fun field v => stringValue field v >>= metricKey c field) fields .orderBy =
    .ok intent.orderBy
  /-- The hand of the pitcher. -/
  pitcherHand : optional (termValue Vocabulary.ofName?) fields .pitcherThrows =
    .ok intent.pitcherHand
  /-- The innings. -/
  innings : whenPresent [] (distinctItems (intInRange inningRange)) fields .inning =
    .ok (intent.innings.map fun n => (n.toNat : Int))
  /-- The strikes. -/
  strikes : optional (intInRange countRange) fields .strikes =
    .ok (intent.strikes.map fun n => (n.toNat : Int))
  /-- The balls. -/
  balls : optional (intInRange countRange) fields .balls =
    .ok (intent.balls.map fun n => (n.toNat : Int))
  /-- The types of pitch. -/
  pitchTypes : whenPresent [] (distinctItems pitchValue) fields .pitchType = .ok intent.pitchTypes
  /-- The bucket of the score. -/
  score : optional (termValue Vocabulary.ofName?) fields .gameScore = .ok intent.score
  /-- The number of rows. -/
  limit : optional (intInRange limitRange) fields .limit =
    .ok (intent.limit.map fun n => (n.toNat : Int))
  /-- The form of the answer. -/
  format : whenPresent .narrative (termValue OutputFormat.ofText?) fields .outputFormat =
    .ok intent.format

namespace Catalogue

variable {c : Catalogue} {proposal : Json} {fields : List (String × Json)} {intent : Intent}

open Intent in
/-- Validation succeeds exactly if the check of each field does, and puts the results together. -/
theorem validate_obj_eq_ok_iff :
    c.validate (.obj fields) = .ok intent ↔ c.Reads fields intent := by
  simp only [validate, Json.fields?, bind_eq_ok_iff, pure_eq_ok_iff]
  constructor
  · rintro ⟨subjectName, hsubjectName, season, hseason, queryType, hqueryType, split, hsplit,
      metrics, hmetrics, orderBy, horderBy, pitcherHand, hpitcherHand, innings, hinnings, strikes,
      hstrikes, balls, hballs, pitchTypes, hpitchTypes, score, hscore, limit, hlimit, format,
      hformat, rfl⟩
    have hseason' : (season.map Int32.ofInt).map Int32.toInt = season :=
      map_map_of_mem fun n hn => toInt_season (seasonValue_accepts.valid_of_optional hseason hn)
    have hcount {count : Option Int} {field : IntentField}
        (hok : optional (intInRange countRange) fields field = .ok count) :
        (count.map fun n => UInt8.ofNat n.toNat).map (fun k => (k.toNat : Int)) = count := by
      refine map_map_of_mem fun n hn => toNat_octet ?_
      obtain ⟨hlow, hhigh⟩ := countValue_accepts.valid_of_optional hok hn
      exact ⟨hlow, by omega⟩
    have hinnings' :
        (innings.map fun n => UInt8.ofNat n.toNat).map (fun k => (k.toNat : Int)) = innings := by
      obtain ⟨listed, -, hall, rfl⟩ := inningValue_accepts.distinct_eq_ok_iff.1 hinnings
      rw [List.map_map]
      refine (List.map_congr_left fun n hn => ?_).trans (List.map_id _)
      obtain ⟨hlow, hhigh⟩ := hall n (List.mem_eraseDups.1 hn)
      exact toNat_octet ⟨by omega, hhigh⟩
    have hlimit' :
        (limit.map fun n => UInt32.ofNat n.toNat).map (fun k => (k.toNat : Int)) = limit :=
      map_map_of_mem fun n hn => toNat_limit (limitValue_accepts.valid_of_optional hlimit hn)
    exact
      { subjectName := hsubjectName, season := hseason.trans (congrArg Except.ok hseason'.symm)
        queryType := hqueryType, split := hsplit, metrics := hmetrics, orderBy := horderBy
        pitcherHand := hpitcherHand, innings := hinnings.trans (congrArg Except.ok hinnings'.symm)
        strikes := hstrikes.trans (congrArg Except.ok (hcount hstrikes).symm)
        balls := hballs.trans (congrArg Except.ok (hcount hballs).symm)
        pitchTypes := hpitchTypes, score := hscore
        limit := hlimit.trans (congrArg Except.ok hlimit'.symm), format := hformat }
  · intro h
    refine ⟨_, h.subjectName, _, h.season, _, h.queryType, _, h.split, _, h.metrics, _, h.orderBy,
      _, h.pitcherHand, _, h.innings, _, h.strikes, _, h.balls, _, h.pitchTypes, _, h.score, _,
      h.limit, _, h.format, ?_⟩
    simp [Option.map_map, Function.comp_def]

/-- Only objects are accepted. -/
theorem validate_eq_ok_iff :
    c.validate proposal = .ok intent ↔
      ∃ fields, proposal = .obj fields ∧ c.Reads fields intent := by
  cases proposal with
  | obj fields => simp [validate_obj_eq_ok_iff]
  | _ => simp [validate, Json.fields?]

/-- A value of a term is its name, with nothing more asked of it. -/
theorem isTerm_iff {α : Type} [Vocabulary α] {value : Json} :
    value.IsTerm α ↔ ∃ term : α, value = .str (Vocabulary.name term) ∧ True := by
  simp [Json.IsTerm]

/-- Where the checks succeed, each field that is given has a value of its kind. -/
theorem Reads.admits (h : c.Reads fields intent) : c.Admits (.obj fields) := by
  refine ⟨⟨fields, rfl⟩, fun field value hvalue => ?_⟩
  have hterm {α : Type} [Vocabulary α] {term? : Option α} {field : IntentField}
      (hok : Intent.optional (Intent.termValue Vocabulary.ofName?) fields field = .ok term?)
      (hgives : (Json.obj fields).Gives field value) : value.IsTerm α :=
    isTerm_iff.2 ((Intent.termValue_accepts.optional_eq_ok_iff.1 hok).1 value hgives)
  cases field with
  | queryType => exact hterm h.queryType hvalue
  | splitType => exact hterm h.split hvalue
  | metrics => exact (Intent.metricsValue_accepts.optional_eq_ok_iff.1 h.metrics).1 value hvalue
  | subjectName => exact (Intent.nameField_eq_ok_iff.1 h.subjectName).1 value hvalue
  | season => exact (Intent.seasonValue_accepts.optional_eq_ok_iff.1 h.season).1 value hvalue
  | inning => exact Intent.inningValue_accepts.isOneOrMany_of_distinct h.innings hvalue
  | strikes => exact (Intent.countValue_accepts.optional_eq_ok_iff.1 h.strikes).1 value hvalue
  | balls => exact (Intent.countValue_accepts.optional_eq_ok_iff.1 h.balls).1 value hvalue
  | pitcherThrows => exact hterm h.pitcherHand hvalue
  | pitchType => exact Intent.pitchValue_accepts.isOneOrMany_of_distinct h.pitchTypes hvalue
  | gameScore => exact hterm h.score hvalue
  | orderBy => exact (Intent.keyValue_accepts.optional_eq_ok_iff.1 h.orderBy).1 value hvalue
  | limit => exact (Intent.limitValue_accepts.optional_eq_ok_iff.1 h.limit).1 value hvalue
  | outputFormat => exact (Intent.formatField_eq_ok_iff.1 h.format).1 value hvalue

/-- Where the checks succeed, the parts of the intent are what the proposal gives. -/
theorem Reads.isNormalFormOf (h : c.Reads fields intent) : intent.IsNormalFormOf (.obj fields) where
  queryType := (Intent.termValue_accepts.optional_eq_ok_iff.1 h.queryType).2
  split := (Intent.termValue_accepts.optional_eq_ok_iff.1 h.split).2
  metrics := (Intent.metricsValue_accepts.optional_eq_ok_iff.1 h.metrics).2
  subjectName := (Intent.nameField_eq_ok_iff.1 h.subjectName).2
  season := (Intent.seasonValue_accepts.optional_eq_ok_iff.1 h.season).2
  innings := by
    obtain ⟨listed, hlists, -, hkept⟩ :=
      Intent.inningValue_accepts.distinct_eq_ok_iff.1 h.innings
    exact ⟨listed, hlists, hkept ▸ keepsFirst_eraseDups listed⟩
  strikes := (Intent.countValue_accepts.optional_eq_ok_iff.1 h.strikes).2
  balls := (Intent.countValue_accepts.optional_eq_ok_iff.1 h.balls).2
  pitcherHand := (Intent.termValue_accepts.optional_eq_ok_iff.1 h.pitcherHand).2
  pitchTypes := by
    obtain ⟨listed, hlists, -, hkept⟩ :=
      Intent.pitchValue_accepts.distinct_eq_ok_iff.1 h.pitchTypes
    exact ⟨listed, hlists, hkept ▸ keepsFirst_eraseDups listed⟩
  score := (Intent.termValue_accepts.optional_eq_ok_iff.1 h.score).2
  orderBy := (Intent.keyValue_accepts.optional_eq_ok_iff.1 h.orderBy).2
  limit := (Intent.limitValue_accepts.optional_eq_ok_iff.1 h.limit).2
  format := (Intent.formatField_eq_ok_iff.1 h.format).2

/-- Where each field that is given has a value of its kind, the checks succeed. -/
theorem exists_validate (h : c.Admits (.obj fields)) :
    ∃ intent, c.validate (.obj fields) = .ok intent := by
  have hterm (α : Type) [Vocabulary α] (field : IntentField)
      (hall : ∀ value, c.AdmitsValue value field → value.IsTerm α) :
      ∃ term? : Option α,
        Intent.optional (Intent.termValue Vocabulary.ofName?) fields field = .ok term? :=
    Intent.termValue_accepts.exists_optional fun value hvalue =>
      isTerm_iff.1 (hall value (h.2 field value hvalue))
  obtain ⟨queryType, hqueryType⟩ := hterm QueryType .queryType fun _ hvalue => hvalue
  obtain ⟨split, hsplit⟩ := hterm Split .splitType fun _ hvalue => hvalue
  obtain ⟨pitcherHand, hpitcherHand⟩ := hterm Hand .pitcherThrows fun _ hvalue => hvalue
  obtain ⟨score, hscore⟩ := hterm ScoreBucket .gameScore fun _ hvalue => hvalue
  obtain ⟨metrics, hmetrics⟩ := Intent.metricsValue_accepts.exists_optional (h.2 .metrics)
  obtain ⟨orderBy, horderBy⟩ := Intent.keyValue_accepts.exists_optional (h.2 .orderBy)
  obtain ⟨season, hseason⟩ := Intent.seasonValue_accepts.exists_optional (h.2 .season)
  obtain ⟨strikes, hstrikes⟩ := Intent.countValue_accepts.exists_optional (h.2 .strikes)
  obtain ⟨balls, hballs⟩ := Intent.countValue_accepts.exists_optional (h.2 .balls)
  obtain ⟨limit, hlimit⟩ := Intent.limitValue_accepts.exists_optional (h.2 .limit)
  obtain ⟨innings, hinnings⟩ :=
    Intent.inningValue_accepts.exists_distinct (fun _ => rfl) (h.2 .inning)
  obtain ⟨pitchTypes, hpitchTypes⟩ :=
    Intent.pitchValue_accepts.exists_distinct (fun _ => rfl) (h.2 .pitchType)
  obtain ⟨subjectName, hsubjectName⟩ := Intent.exists_nameField (h.2 .subjectName)
  obtain ⟨format, hformat⟩ := Intent.exists_formatField (h.2 .outputFormat)
  simp only [validate, Json.fields?, bind_eq_ok_iff, pure_eq_ok_iff]
  exact ⟨_, subjectName, hsubjectName, season, hseason, queryType, hqueryType, split, hsplit,
    metrics, hmetrics, orderBy, horderBy, pitcherHand, hpitcherHand, innings, hinnings, strikes,
    hstrikes, balls, hballs, pitchTypes, hpitchTypes, score, hscore, limit, hlimit, format, hformat,
    rfl⟩

/-- Validation accepts exactly the proposals that are objects with values of the right kinds, and
the intent is then the normal form of the proposal. -/
theorem validate_accepts_iff (c : Catalogue) (proposal : Json) :
    ((∃ intent, c.validate proposal = .ok intent) ↔ c.Admits proposal) ∧
      ∀ intent, c.validate proposal = .ok intent → intent.IsNormalFormOf proposal := by
  refine ⟨⟨?_, ?_⟩, fun intent h => ?_⟩
  · rintro ⟨intent, h⟩
    obtain ⟨fields, rfl, hreads⟩ := validate_eq_ok_iff.1 h
    exact hreads.admits
  · intro h
    obtain ⟨fields, rfl⟩ := h.1
    exact exists_validate h
  · obtain ⟨fields, rfl, hreads⟩ := validate_eq_ok_iff.1 h
    exact hreads.isNormalFormOf

/-- Of repeated innings the first is kept, and `null` is as good as nothing. -/
example : builtIn.validate (.obj [("inning", .arr [.int 9, .int 7, .int 9]), ("limit", .null),
    ("output_format", .str "sentence")]) = .ok { innings := [9, 7] } := by
  decide +kernel

end Catalogue

end Scorebook
