import Scorebook.Catalogue.BuiltIn
import Scorebook.Proofs.Json.RoundTrip
import Scorebook.Proofs.Query.Compile

/-!
# Queries read back

In JSON the kind of a value is seen from its form: only the empty list, which counts as a list of
numbers, may stand for two values. A query without an empty list of strings is read back from its
JSON form and from the text of that form. Main statement: so is every query that answers an intent,
as no list is bound where nothing is asked for.
-/

namespace Scorebook

namespace Param

/-- A whole number is read back. -/
theorem intOf?_intJson (n : Int64) : intOf? (intJson n) = some n := by
  have hrange : (IntRange.signed 64).holds n.toInt = true := by
    have hlow := n.le_toInt
    have hhigh := n.toInt_lt
    rw [IntRange.holds_iff, IntRange.signed]
    simp only [Nat.reduceSub, Nat.reduceShiftLeft]
    omega
  rw [intJson, intOf?, if_pos hrange, Int64.ofInt_toInt]

/-- A string is no whole number, so a list that has one is a list of strings. -/
theorem mapM_intOf?_str (s : String) (texts : List String) :
    ((s :: texts).map Json.str).mapM intOf? = none := by
  rw [List.map_cons, List.mapM_cons]
  rfl

/-- A value is read back as it was exactly if it is no empty list of strings. -/
theorem ofJson?_toJson_iff {value : Param} :
    ofJson? value.toJson = some value ↔ value ≠ .texts [] := by
  cases value with
  | int n =>
    have hread : ofJson? (int n).toJson = (intOf? (intJson n)).map .int := rfl
    simp [hread, intOf?_intJson]
  | text s => simp [toJson, ofJson?]
  | ints ns =>
    have hread : (ns.map intJson).mapM intOf? = some ns := mapM_map_eq_some intOf?_intJson ns
    simp [toJson, ofJson?, hread]
  | texts ss =>
    cases ss with
    | nil => simp [toJson, Json.strings, ofJson?]
    | cons s ss =>
      have htext (text : String) : Json.text? (.str text) = some text := rfl
      have hread : ((s :: ss).map Json.str).mapM Json.text? = some (s :: ss) :=
        mapM_map_eq_some htext (s :: ss)
      simp only [toJson, Json.strings, ofJson?, mapM_intOf?_str, hread]
      simp

example : ofJson? (Param.texts []).toJson = some (.ints []) := rfl

/-- The JSON form of a value is determined by its text. -/
theorem plain_toJson (value : Param) (depth : Nat) : Json.Plain (depth + 1) value.toJson := by
  have hint (depth : Nat) (n : Int64) : Json.Plain depth (intJson n) := by
    refine .int depth ?_
    have hlow := n.le_toInt
    have hhigh := n.toInt_lt
    rw [IntRange.holds_iff, Json.Literal.wholeRange, IntRange.signed, IntRange.unsigned]
    simp only [Nat.reduceSub, Nat.reduceShiftLeft]
    omega
  cases value with
  | int n => exact hint _ n
  | text s => exact .str _ s
  | ints ns =>
    refine .arr fun item hitem => ?_
    obtain ⟨n, -, rfl⟩ := List.mem_map.1 hitem
    exact hint _ n
  | texts ss =>
    refine .arr fun item hitem => ?_
    obtain ⟨s, -, rfl⟩ := List.mem_map.1 hitem
    exact .str _ s

end Param

namespace Query

/-- Values by name are read back if each of them is. -/
theorem paramsOfJson?_paramsToJson {params : Dict Param}
    (h : ∀ name, params.get? name ≠ some (.texts [])) :
    paramsOfJson? (paramsToJson params) = some params := by
  have hentries : (params.entries.map fun entry => (entry.1, entry.2.toJson)).mapM
      (fun field => (Param.ofJson? field.2).map (field.1, ·)) = some params.entries := by
    rw [mapM_eq_some_iff, List.forall₂_map_left_iff, List.forall₂_same]
    rintro ⟨name, value⟩ hmem
    have hread : Param.ofJson? value.toJson = some value := by
      rw [Param.ofJson?_toJson_iff]
      rintro rfl
      exact h name (Dict.get?_eq_some_iff.2 hmem)
    simp only [hread, Option.map_some]
  rw [paramsOfJson?, paramsToJson, Json.fields?]
  simp only [Option.bind_eq_bind, Option.bind_some, hentries, Option.pure_def, Dict.ofList_entries]

/-- A query is read from any fields that hold its text and its values. -/
theorem ofJson?_eq_some {query : Query} {fields : List (String × Json)}
    (hsql : fields.lookup "sql" = some (.str query.sql))
    (hparams : fields.lookup "params" = some (paramsToJson query.params))
    (h : ∀ name, query.param? name ≠ some (.texts [])) :
    ofJson? (.obj fields) = some query := by
  have hread : paramsOfJson? (paramsToJson query.params) = some query.params :=
    paramsOfJson?_paramsToJson h
  simp only [ofJson?, Json.field?, Json.fields?, Json.text?, Option.bind_eq_bind, Option.bind_some,
    hsql, hparams, hread, Option.pure_def]

/-- A query without an empty list of strings is read back from its JSON form. -/
theorem ofJson?_toJson {query : Query} (h : ∀ name, query.param? name ≠ some (.texts [])) :
    ofJson? query.toJson = some query :=
  ofJson?_eq_some rfl rfl h

/-- It is read back from the text of that form as well. -/
theorem ofJson?_parse?_compact {query : Query}
    (h : ∀ name, query.param? name ≠ some (.texts [])) :
    (Json.parse? query.toJson.compact).bind ofJson? = some query := by
  let fields := [("sql", Json.str query.sql), ("params", paramsToJson query.params)]
  have hparams : Json.Reader.Recovers (Json.Reader.value (Json.nestingLimit - 1))
      (paramsToJson query.params).chars (paramsToJson query.params) := by
    refine Json.Reader.recovers_obj (List.pairwise_map.2 query.params.ascending) ?_
    intro field hfield
    obtain ⟨entry, -, rfl⟩ := List.mem_map.1 hfield
    exact Json.Reader.recovers_chars (entry.2.plain_toJson 124)
  have hparse : Json.parse? query.toJson.compact = some (Json.object fields) := by
    refine Json.parse?_compact_obj
      (List.forall_mem_cons.2 ⟨?_, List.forall_mem_singleton.2 hparams⟩)
    exact Json.Reader.recovers_chars (.str _ query.sql)
  have hkeys : (fields.map Prod.fst).Nodup := by
    show ["sql", "params"].Nodup
    decide
  obtain ⟨sorted, hsorted, hlookup⟩ := Json.object_eq_obj hkeys
  rw [hparse, hsorted, Option.bind_some]
  exact ofJson?_eq_some ((hlookup "sql").trans rfl) ((hlookup "params").trans rfl) h

end Query

/-- No intent gives an empty list for a placeholder. -/
theorem Intent.value?_ne_nil (intent : Intent) (binding : Binding) (slot : Slot) :
    intent.value? binding slot ≠ some (.texts []) := by
  cases slot with
  | pitchTypes =>
    cases hpitches : intent.pitchTypes <;> simp [value?, hpitches]
  | _ => simp [value?]

namespace Catalogue

/-- No query that answers an intent holds an empty list of strings. -/
theorem param?_ne_nil {c : Catalogue} {strategy : Strategy} {defaultLimit : UInt32}
    {intent : Intent} {q : Query} (h : c.compile strategy defaultLimit intent = .ok q)
    (name : String) : q.param? name ≠ some (.texts []) := by
  obtain ⟨s, hs, rfl⟩ := compile_eq_ok_iff.1 h
  intro hparam
  obtain ⟨slot, -, -, hvalue⟩ := (s.query_param?_iff (statement_values hs)).1 hparam
  exact intent.value?_ne_nil _ slot hvalue

/-- A query that answers an intent is read back as it was, from its JSON form and from the text of
that form; each of its values is of the same kind as before, and they are bound with the same
result. -/
theorem compile_readsBack (c : Catalogue) (strategy : Strategy) (defaultLimit : UInt32)
    (intent : Intent) (q : Query) (h : c.compile strategy defaultLimit intent = .ok q) :
    Query.ofJson? q.toJson = some q ∧
      (Json.parse? q.toJson.compact).bind Query.ofJson? = some q ∧
      (∀ name value, q.param? name = some value →
        Param.ofJson? value.toJson = some value) ∧
      ((Json.parse? q.toJson.compact).bind Query.ofJson?).map Query.positional =
        some q.positional := by
  have hnil := param?_ne_nil h
  refine ⟨Query.ofJson?_toJson hnil, Query.ofJson?_parse?_compact hnil, ?_, ?_⟩
  · intro name value hvalue
    rw [Param.ofJson?_toJson_iff]
    rintro rfl
    exact hnil name hvalue
  · rw [Query.ofJson?_parse?_compact hnil, Option.map_some]

end Catalogue

/-- Batters against breaking balls late in the game, in the seventh inning or later. -/
def Intent.lateBreakingBalls : Intent where
  queryType := some .battingSplits
  innings := [7, 8, 9]
  pitchTypes := ["Slider", "Knuckle Curve"]

/-- Both lists of their query are read back, one as numbers and one as strings. -/
theorem Catalogue.compile_readsBack_lateBreakingBalls :
    ∃ q : Query, builtIn.compile .eventLevel 10 .lateBreakingBalls = .ok q ∧
      q.param? "innings" = some (.ints [7, 8, 9]) ∧
      q.param? "pitch_types" = some (.texts ["Slider", "Knuckle Curve"]) ∧
      Query.ofJson? q.toJson = some q ∧
      (Json.parse? q.toJson.compact).bind Query.ofJson? = some q := by
  have hvalues : (builtIn.compile .eventLevel 10 .lateBreakingBalls).toOption.map
      (fun q => (q.param? "innings", q.param? "pitch_types")) =
        some (some (.ints [7, 8, 9]), some (.texts ["Slider", "Knuckle Curve"])) := by
    decide +kernel
  obtain ⟨q, hq, hvalues⟩ := exists_of_toOption_map hvalues
  obtain ⟨hinnings, hpitches⟩ := Prod.mk.inj hvalues
  obtain ⟨hjson, htext, -⟩ := compile_readsBack builtIn .eventLevel 10 .lateBreakingBalls q hq
  exact ⟨q, hq, hinnings, hpitches, hjson, htext⟩

end Scorebook
