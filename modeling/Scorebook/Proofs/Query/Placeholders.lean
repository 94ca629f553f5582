import Mathlib.Data.List.Nodup
import Scorebook.Proofs.Query.Positional
import Scorebook.Proofs.Query.Rendering

/-!
# Placeholders and values agree

The placeholders that the scan finds in the text of a compiled query are those that the query has
values for, each once and in the form that its value needs. So the values can always be bound by
position, in the order of the text, and there is a question mark for each of them.
-/

namespace Scorebook

namespace Piece

/-- The name of a placeholder. -/
def mark? : Piece → Option String
  | .plain _ => none
  | .single name => some name
  | .spread name => some name

/-- The names in a text are those of its placeholders. -/
theorem filterMap_mark?_scan (cs : List Char) :
    (scan cs).filterMap mark? = (placeholders cs).filterMap mark? := by
  rw [placeholders, List.filterMap_filter]
  congr 1
  funext piece
  cases piece <;> rfl

end Piece

/-- The values that a parameter has in the places of its own form: itself, or each of a list. -/
def Param.places : Param → List BoundValue
  | .int n => [.bigInt n]
  | .text s => [.text s]
  | .ints ns => ns.map .bigInt
  | .texts ss => ss.map .text

/-- A list has its items in its places. -/
theorem Param.HasItems.places_eq {value : Param} {items : List BoundValue}
    (h : value.HasItems items) : value.places = items := by
  cases h <;> rfl

/-- Any other parameter has itself in its place. -/
theorem Param.BindsAs.places_eq {value : Param} {place : BoundValue} (h : value.BindsAs place)
    (hno : ∀ items, ¬ value.HasItems items) : value.places = [place] := by
  cases h with
  | int | text => rfl
  | ints => exact absurd (.ints _) (hno _)
  | texts => exact absurd (.texts _) (hno _)

namespace Query

/-- The names of the placeholders in the text, from left to right. -/
def names (q : Query) : List String := (Piece.scan q.sql.toList).filterMap Piece.mark?

/-- The values for the places of a placeholder. -/
def valuesAt (q : Query) (name : String) : List BoundValue := (q.param? name).elim [] Param.places

/-- The placeholders in the text of a query agree with its values. -/
structure Agrees (q : Query) : Prop where
  /-- No placeholder is found twice. -/
  nodup : q.names.Nodup
  /-- The placeholders are those that there are values for. -/
  keys : q.names.Perm q.params.keys
  /-- The list form is that of the innings and of the types of pitches, and stands for lists. -/
  spread : ∀ name, .spread name ∈ Piece.scan q.sql.toList →
    (name = "innings" ∨ name = "pitch_types") ∧
      ∃ value items, q.param? name = some value ∧ value.HasItems items
  /-- All other placeholders stand by themselves and for single values. -/
  single : ∀ name, .single name ∈ Piece.scan q.sql.toList →
    ¬ (name = "innings" ∨ name = "pitch_types") ∧
      ∃ value, q.param? name = some value ∧ ∀ items, ¬ value.HasItems items

end Query

namespace Query.Agrees

variable {q : Query}

/-- A piece takes the values for its name, if it agrees with the values. -/
theorem values_of_becomes (h : q.Agrees) {piece : Piece} {part : List Char × List BoundValue}
    (hp : piece ∈ Piece.scan q.sql.toList) (hpart : piece.Becomes q.params part) :
    part.2 = piece.mark?.elim [] q.valuesAt := by
  cases hpart with
  | plain => rfl
  | @single name value place hvalue hplace =>
    obtain ⟨-, other, hother, hno⟩ := h.single name hp
    obtain rfl : other = value := Option.some.inj (hother.symm.trans hvalue)
    simp [Piece.mark?, valuesAt, hother, hplace.places_eq hno]
  | nothing hvalue hitems | items hvalue hitems =>
    simp [Piece.mark?, valuesAt, param?, hvalue, hitems.places_eq]

/-- All values come in the order of the names. -/
theorem values_eq (h : q.Agrees) {pieces : List Piece}
    {parts : List (List Char × List BoundValue)}
    (hparts : List.Forall₂ (Piece.Becomes q.params) pieces parts)
    (hp : ∀ piece ∈ pieces, piece ∈ Piece.scan q.sql.toList) :
    parts.flatMap (·.2) = (pieces.filterMap Piece.mark?).flatMap q.valuesAt := by
  induction hparts with
  | nil => rfl
  | @cons piece part _ _ hpart _ ih =>
    obtain ⟨hpiece, hrest⟩ := List.forall_mem_cons.1 hp
    rw [List.flatMap_cons, h.values_of_becomes hpiece hpart, ih hrest, List.filterMap_cons]
    cases piece.mark? <;> rfl

/-- If the placeholders agree with the values, these can be bound by position: they come in the
order of the text, and there is a question mark for each of them if the text holds no others. -/
theorem positional (h : q.Agrees) :
    ∃ bound, q.positional = .ok bound ∧ bound.values = q.names.flatMap q.valuesAt ∧
      (Lacks '?' q.sql → bound.sql.toList.count '?' = bound.values.length) := by
  have hcuts := Piece.cuts_iff.2 (Eq.refl (Piece.scan q.sql.toList))
  obtain ⟨bound, hbound⟩ := (exists_positional_iff hcuts).2
    ⟨fun name hm => by
      obtain ⟨-, value, hvalue, -⟩ := h.single name hm
      exact Option.isSome_of_eq_some hvalue,
    fun name hm => (h.spread name hm).2⟩
  obtain ⟨parts, hparts, hsql, hvalues⟩ := (positional_eq_ok_iff hcuts).1 hbound
  refine ⟨bound, hbound, hvalues.trans (h.values_eq hparts fun _ hm => hm), fun hno => ?_⟩
  rw [hsql, hvalues]
  exact Piece.count_parts hparts fun hm => hno (hcuts.mem_of_plain hm)

end Query.Agrees

/-- Conditions on the columns of placeholders hold just these placeholders. -/
theorem Condition.slots_meets {column? : Slot → Option String} {values : List (Slot × Param)}
    (h : ∀ value ∈ values, (column? value.1).isSome) :
    (values.filterMap fun value => (column? value.1).map (Condition.meets value.1)).flatMap slots =
      values.map Prod.fst := by
  induction values with
  | nil => rfl
  | cons value values ih =>
    obtain ⟨hvalue, hvalues⟩ := List.forall_mem_cons.1 h
    obtain ⟨column, hc⟩ := Option.isSome_iff_exists.1 hvalue
    rw [List.filterMap_cons, hc, Option.map_some, List.flatMap_cons, ih hvalues]
    rfl

/-- The conditions on single pitches hold the placeholders that have values. -/
theorem MasterTable.slots_conditions {master : MasterTable} {queryType : QueryType}
    {intent : Intent} {values : List (Slot × Param)}
    (h : ∀ value ∈ values, (master.column queryType value.1).isSome) :
    (master.conditions queryType intent values).flatMap Condition.slots =
      values.map Prod.fst := by
  have hrunners : ((intent.split.bind Split.runners?).map Condition.runners).toList.flatMap
      Condition.slots = [] := by
    cases intent.split.bind Split.runners? <;> rfl
  have hscore : (intent.score.map Condition.score).toList.flatMap Condition.slots = [] := by
    cases intent.score <;> rfl
  rw [conditions, List.flatMap_append, List.flatMap_append, List.flatMap_append, hrunners, hscore,
    Condition.slots_meets h, List.append_nil, List.append_nil]
  rfl

namespace Catalogue

variable {c : Catalogue} {strategy : Strategy} {defaultLimit : UInt32} {intent : Intent}
  {s : Statement}

/-- The placeholders of a statement are those of its values, in the same order. -/
theorem slots_eq_values (h : c.statement strategy defaultLimit intent = .ok s) :
    s.conditions.flatMap Condition.slots ++ [.limit] = s.values.map Prod.fst := by
  have hlimit (binding : Binding) (slots : List Slot) :
      (intent.valuesFor binding (slots ++ [.limit])).map Prod.fst =
        (intent.valuesFor binding slots).map Prod.fst ++ [.limit] := by
    rw [Intent.valuesFor_append, List.map_append]
    rfl
  cases strategy with
  | aggregated =>
    obtain ⟨metrics, context, table, -, -, -, -, hcols, rfl⟩ := aggregated_eq_ok_iff.1 h
    simp only [tableStatement, hlimit, Table.conditions, Condition.slots_meets hcols]
  | eventLevel =>
    obtain ⟨queryType, master, -, -, rfl⟩ := eventLevel_eq_ok_iff.1 h
    have hcols : ∀ value ∈ intent.valuesFor (pitchBinding defaultLimit)
        MasterTable.conditionSlots, (master.column queryType value.1).isSome := fun value hv =>
      MasterTable.column_isSome (Intent.mem_valuesFor.1 hv).1
    simp only [pitchStatement, hlimit, MasterTable.slots_conditions hcols]

/-- The scan of a statement without marks in its names finds the placeholders of its values. -/
theorem placeholders_sql (hquiet : ∀ name ∈ c.identifiers, '@' ∉ name.toList)
    (h : c.statement strategy defaultLimit intent = .ok s) :
    Piece.placeholders s.sql.toList = (s.values.map Prod.fst).map Slot.piece := by
  have hwords : ∀ word ∈ s.words, Lacks '@' word := by
    intro word hw
    rcases List.mem_append.1 (statement_words h hw) with hc | hf
    · exact hquiet word hc
    · exact IsPlaceSign.lacks_fixedWord (Or.inl rfl) hf
  rw [(Statement.marked hwords).placeholders_eq, slots_eq_values h]

end Catalogue

namespace Slot

/-- The name of a placeholder is the one that it is found by. -/
theorem mark?_piece (slot : Slot) : slot.piece.mark? = some (Vocabulary.name slot) := by
  unfold piece
  split <;> rfl

/-- The list form is found for placeholders that hold lists. -/
theorem piece_eq_spread_iff {slot : Slot} {name : String} :
    slot.piece = .spread name ↔ slot.isList = true ∧ Vocabulary.name slot = name := by
  unfold piece
  split <;> simp_all

/-- The other form is found for all others. -/
theorem piece_eq_single_iff {slot : Slot} {name : String} :
    slot.piece = .single name ↔ slot.isList = false ∧ Vocabulary.name slot = name := by
  unfold piece
  split <;> simp_all

/-- The innings and the types of pitches are lists, and nothing else is. -/
theorem isList_iff (slot : Slot) :
    slot.isList = true ↔
      Vocabulary.name slot = "innings" ∨ Vocabulary.name slot = "pitch_types" := by
  cases slot <;> decide

end Slot

namespace Catalogue

variable {c : Catalogue} {strategy : Strategy} {defaultLimit : UInt32} {intent : Intent}
  {s : Statement}

/-- The names in the text of a statement are those of its values, in the same order. -/
theorem names_query (hquiet : ∀ name ∈ c.identifiers, '@' ∉ name.toList)
    (h : c.statement strategy defaultLimit intent = .ok s) :
    s.query.names = (s.values.map Prod.fst).map Vocabulary.name := by
  have hscan : Piece.placeholders s.query.sql.toList = (s.values.map Prod.fst).map Slot.piece :=
    placeholders_sql hquiet h
  have hcomp : Piece.mark? ∘ Slot.piece = some ∘ Vocabulary.name := funext Slot.mark?_piece
  rw [Query.names, Piece.filterMap_mark?_scan, hscan, List.filterMap_map, hcomp,
    ← List.filterMap_map, List.filterMap_some]

/-- Every placeholder in the text of a statement stands for a value of the intent. -/
theorem value_of_mem_scan (hquiet : ∀ name ∈ c.identifiers, '@' ∉ name.toList)
    (h : c.statement strategy defaultLimit intent = .ok s) {piece : Piece}
    (hp : piece ∈ Piece.scan s.query.sql.toList) (hm : piece.isMark = true) :
    ∃ (slot : Slot) (value : Param), slot.piece = piece ∧ value.boundItems?.isSome = slot.isList ∧
      s.query.param? (Vocabulary.name slot) = some value := by
  have hvalues := statement_values h
  have hfound : piece ∈ Piece.placeholders s.sql.toList := List.mem_filter.2 ⟨hp, hm⟩
  rw [placeholders_sql hquiet h, List.map_map, List.mem_map] at hfound
  obtain ⟨⟨slot, value⟩, hv, hpiece⟩ := hfound
  rw [hvalues] at hv
  obtain ⟨hslot, hvalue⟩ := Intent.mem_valuesFor.1 hv
  have hparam := (Statement.query_param?_iff hvalues).2 ⟨slot, hslot, rfl, hvalue⟩
  exact ⟨slot, value, hpiece, Intent.boundItems?_of_value? hvalue, hparam⟩

/-- The placeholders of a statement without marks in its names agree with its values. -/
theorem statement_agrees (hquiet : ∀ name ∈ c.identifiers, '@' ∉ name.toList)
    (h : c.statement strategy defaultLimit intent = .ok s) : s.query.Agrees := by
  have hvalues := statement_values h
  have hnames := names_query hquiet h
  have hnodup : s.query.names.Nodup := by
    rw [hnames, hvalues]
    exact List.Nodup.map Vocabulary.name_injective
      ((Intent.valuesFor_slots_sublist _).nodup (slots_nodup strategy))
  have hkeys (name : String) : name ∈ s.query.names ↔ name ∈ s.query.params.keys := by
    have hparam := @Statement.query_param?_iff s intent _ _ hvalues name
    rw [Query.param?] at hparam
    rw [Dict.mem_keys_iff, hnames, hvalues]
    simp only [hparam, List.mem_map, Prod.exists, Intent.mem_valuesFor]
    constructor
    · rintro ⟨slot, ⟨_, value, ⟨hslot, hv⟩, rfl⟩, rfl⟩
      exact ⟨value, _, hslot, rfl, hv⟩
    · rintro ⟨value, slot, hslot, rfl, hv⟩
      exact ⟨slot, ⟨_, value, ⟨hslot, hv⟩, rfl⟩, rfl⟩
  refine ⟨hnodup, ?_, fun name hp => ?_, fun name hp => ?_⟩
  · exact (List.perm_ext_iff_of_nodup hnodup s.query.params.keys_nodup).2 hkeys
  · obtain ⟨slot, value, hpiece, hitems, hparam⟩ := value_of_mem_scan hquiet h hp rfl
    obtain ⟨hlist, rfl⟩ := Slot.piece_eq_spread_iff.1 hpiece
    obtain ⟨items, hitems⟩ := Param.isSome_boundItems?_iff.1 (hitems.trans hlist)
    exact ⟨slot.isList_iff.1 hlist, value, items, hparam, hitems⟩
  · obtain ⟨slot, value, hpiece, hitems, hparam⟩ := value_of_mem_scan hquiet h hp rfl
    obtain ⟨hlist, rfl⟩ := Slot.piece_eq_single_iff.1 hpiece
    rw [hlist, Option.isSome_eq_false_iff, Option.isNone_iff_eq_none] at hitems
    rw [← slot.isList_iff, hlist]
    exact ⟨Bool.false_ne_true, value, hparam, Param.boundItems?_eq_none_iff.1 hitems⟩

/-- In a catalogue without the mark in its names, the placeholders in the text of a query are those
that it has values for, each once and in the form that its value needs. So the values can be bound
by position, in the order of the text and with the lists spread, and there is a question mark for
each of them if no name of the catalogue holds one. -/
theorem compile_agrees (c : Catalogue) (strategy : Strategy) (defaultLimit : UInt32)
    (intent : Intent) (q : Query) (hquiet : ∀ name ∈ c.identifiers, '@' ∉ name.toList)
    (h : c.compile strategy defaultLimit intent = .ok q) :
    q.Agrees ∧ ∃ bound, q.positional = .ok bound ∧ bound.values = q.names.flatMap q.valuesAt ∧
      ((∀ name ∈ c.identifiers, '?' ∉ name.toList) →
        bound.sql.toList.count '?' = bound.values.length) := by
  obtain ⟨s, hs, rfl⟩ := compile_eq_ok_iff.1 h
  have hagrees := statement_agrees hquiet hs
  obtain ⟨bound, hbound, hvalues, hcount⟩ := hagrees.positional
  refine ⟨hagrees, bound, hbound, hvalues, fun hquestions => hcount ?_⟩
  apply Statement.lacks_questionMark
  intro word hw
  rcases List.mem_append.1 (statement_words hs hw) with hc | hf
  · exact hquestions word hc
  · exact IsPlaceSign.lacks_fixedWord (Or.inr rfl) hf

/-- A table with a row for each type of pitch. -/
def byPitchType : Catalogue where
  version := "1"
  tables := Dict.ofList [("batting_splits_pitch_type",
    { source := "batting_by_pitch_type", nameCol := "player_name", yearCol := some "season",
      filters := { pitchType := some "pitch_name" },
      metrics := Dict.ofList [("homerun", .direct "hr")] })]

end Catalogue

/-- The home runs of a season off two types of pitches. -/
def Intent.offTwoPitches : Intent where
  queryType := some .battingSplits
  split := some .pitchType
  metrics := some ["homerun"]
  season := some 2024
  pitchTypes := ["Slider", "Curveball"]

/-- The season, both types of pitches and the limit find their places. -/
theorem Catalogue.compile_agrees_offTwoPitches :
    ∃ q, byPitchType.compile .aggregated 10 .offTwoPitches = .ok q ∧ q.Agrees ∧
      ∃ bound, q.positional = .ok bound ∧ bound.values = q.names.flatMap q.valuesAt ∧
        bound.sql.toList.count '?' = bound.values.length := by
  have hmarks : ∀ name ∈ byPitchType.identifiers, '@' ∉ name.toList ∧ '?' ∉ name.toList := by
    decide +kernel
  have hsome : (byPitchType.compile .aggregated 10 .offTwoPitches).toOption.isSome = true := by
    decide +kernel
  cases hq : byPitchType.compile .aggregated 10 .offTwoPitches with
  | error e =>
    rw [hq] at hsome
    cases hsome
  | ok q =>
    obtain ⟨hagrees, bound, hbound, hvalues, hcount⟩ :=
      compile_agrees byPitchType .aggregated 10 .offTwoPitches q (fun n hn => (hmarks n hn).1) hq
    exact ⟨q, rfl, hagrees, bound, hbound, hvalues, hcount fun n hn => (hmarks n hn).2⟩

end Scorebook
