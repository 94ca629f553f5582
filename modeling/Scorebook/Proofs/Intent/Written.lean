import Scorebook.Intent.Reader
import Scorebook.Proofs.Json.RoundTrip
import Scorebook.Proofs.Lookup
import Scorebook.Proofs.Outcome

/-!
# What is written for an intent

The JSON form of an intent gives for each field the value that the intent has, under the key of the
field, and nothing for a field that is absent. So the plain reader gives back the intent, from any
object with these values under these keys. Main statement: an intent is read back from its compact
text.
-/

namespace Scorebook.Intent

/-- No field is listed twice. -/
theorem fields_nodup : (Vocabulary.terms (α := IntentField)).Nodup := by
  decide

/-- The fields that are written for an intent. -/
def written (intent : Intent) : List (String × Json) :=
  (Vocabulary.terms (α := IntentField)).filterMap fun field =>
    (intent.fieldValue field).map (field.key, ·)

/-- Under a key stands the value of its field, if the field is among those that are written. -/
theorem lookup_filterMap {value? : IntentField → Option Json} {written : List IntentField}
    (h : written.Nodup) (field : IntentField) :
    (written.filterMap fun f => (value? f).map (f.key, ·)).lookup field.key =
      if field ∈ written then value? field else none := by
  induction written with
  | nil => rfl
  | cons f written ih =>
    obtain ⟨hf, hrest⟩ := List.nodup_cons.1 h
    by_cases he : field = f
    · subst he
      rw [if_pos List.mem_cons_self, List.filterMap_cons]
      cases value? field with
      | none =>
        have htail := ih hrest
        rw [if_neg hf] at htail
        exact htail
      | some value => exact (lookup_cons_eq ..).trans (if_pos rfl)
    · have hkey : field.key ≠ f.key := fun hk => he (Vocabulary.name_injective hk)
      have hmem : field ∈ f :: written ↔ field ∈ written := by simp [he]
      rw [if_congr hmem rfl rfl, ← ih hrest, List.filterMap_cons]
      cases value? f with
      | none => rfl
      | some value => exact (lookup_cons_eq ..).trans (if_neg hkey)

/-- Each field stands under its key with the value that the intent has. -/
theorem lookup_written (intent : Intent) (field : IntentField) :
    intent.written.lookup field.key = intent.fieldValue field :=
  (lookup_filterMap fields_nodup field).trans (if_pos (Vocabulary.complete field))

/-- No key is written twice. -/
theorem written_nodup (intent : Intent) : (intent.written.map Prod.fst).Nodup := by
  rw [List.Nodup, List.pairwise_map, written, List.pairwise_filterMap]
  refine fields_nodup.imp fun {f g} hne p hp q hq => ?_
  obtain ⟨_, -, rfl⟩ := Option.map_eq_some_iff.1 hp
  obtain ⟨_, -, rfl⟩ := Option.map_eq_some_iff.1 hq
  exact fun hkey => hne (Vocabulary.name_injective hkey)

/-- A literal may write any number of 32 bits, with or without a sign. -/
theorem wholeRange_of_bounds {n : Int} (hlow : -0x80000000 ≤ n) (hhigh : n < 0x100000000) :
    Json.Literal.wholeRange.holds n = true := by
  have hrange : Json.Literal.wholeRange = ⟨-0x8000000000000000, 0xFFFFFFFFFFFFFFFF⟩ := by decide
  rw [hrange, IntRange.holds_iff]
  have hbounds : -0x8000000000000000 ≤ n ∧ n ≤ 0xFFFFFFFFFFFFFFFF := by omega
  exact hbounds

/-- Numbers of 8 bits are plain. -/
theorem plain_octet (depth : Nat) (n : UInt8) : Json.Plain depth (.int n.toNat) := by
  have hlt : n.toNat < 2 ^ 8 := n.toNat_lt
  exact .int depth (wholeRange_of_bounds (by omega) (by omega))

/-- Lists of plain values are plain. -/
theorem plain_map {α : Type} {write : α → Json} {depth : Nat}
    (h : ∀ a, Json.Plain depth (write a)) (as : List α) :
    Json.Plain (depth + 1) (.arr (as.map write)) := by
  refine .arr fun x hx => ?_
  obtain ⟨a, -, rfl⟩ := List.mem_map.1 hx
  exact h a

/-- The value of a field is a string, a whole number or a list of such values. -/
theorem plain_fieldValue (intent : Intent) {field : IntentField} {value : Json}
    (h : intent.fieldValue field = some value) (depth : Nat) : Json.Plain (depth + 1) value := by
  cases field <;>
    simp only [fieldValue, Option.map_eq_some_iff, Option.ite_none_left_eq_some,
      Option.some.injEq] at h
  case metrics =>
    obtain ⟨keys, -, rfl⟩ := h
    exact plain_map (.str depth) keys
  case season =>
    obtain ⟨n, -, rfl⟩ := h
    have hlow : -2 ^ 31 ≤ n.toInt := n.le_toInt
    have hhigh : n.toInt < 2 ^ 31 := n.toInt_lt
    exact .int _ (wholeRange_of_bounds (by omega) (by omega))
  case inning =>
    obtain ⟨-, rfl⟩ := h
    exact plain_map (plain_octet depth) intent.innings
  case strikes =>
    obtain ⟨n, -, rfl⟩ := h
    exact plain_octet _ n
  case balls =>
    obtain ⟨n, -, rfl⟩ := h
    exact plain_octet _ n
  case pitchType =>
    obtain ⟨-, rfl⟩ := h
    exact plain_map (.str depth) intent.pitchTypes
  case limit =>
    obtain ⟨n, -, rfl⟩ := h
    have hlt : n.toNat < 2 ^ 32 := n.toNat_lt
    exact .int _ (wholeRange_of_bounds (by omega) (by omega))
  case outputFormat =>
    obtain rfl := h
    exact .str _ _
  all_goals
    obtain ⟨_, -, rfl⟩ := h
    exact .str _ _

/-- No field is written as `null`. -/
theorem fieldValue_ne_null (intent : Intent) {field : IntentField} {value : Json}
    (h : intent.fieldValue field = some value) : value.isNull = false := by
  cases intent.plain_fieldValue h 0 <;> rfl

section

variable {α : Type}

/-- A term is read back from its name. -/
theorem termOf?_name [Vocabulary α] (a : α) : termOf? (.str (Vocabulary.name a)) = some a :=
  Vocabulary.ofName?_eq_some.2 rfl

/-- A season is read back. -/
theorem seasonOf?_toInt (n : Int32) : seasonOf? (.int n.toInt) = some n := by
  have hrange : (IntRange.signed 32).holds n.toInt = true := by
    rw [IntRange.holds_iff]
    exact ⟨n.le_toInt, n.toInt_le⟩
  simp [seasonOf?, intWithin?, Json.int?, hrange]

/-- A whole number of 8 bits is read back. -/
theorem octetOf?_toNat (n : UInt8) : octetOf? (.int n.toNat) = some n := by
  have hlt : n.toNat < 2 ^ 8 := n.toNat_lt
  have hrange : (IntRange.unsigned 8).holds n.toNat = true := by
    rw [IntRange.holds_iff, IntRange.unsigned]
    simp
    omega
  simp [octetOf?, intWithin?, Json.int?, hrange]

/-- A whole number of 32 bits is read back. -/
theorem limitOf?_toNat (n : UInt32) : limitOf? (.int n.toNat) = some n := by
  have hlt : n.toNat < 2 ^ 32 := n.toNat_lt
  have hrange : (IntRange.unsigned 32).holds n.toNat = true := by
    rw [IntRange.holds_iff, IntRange.unsigned]
    simp
    omega
  simp [limitOf?, intWithin?, Json.int?, hrange]

/-- A list is read back if its items are. -/
theorem listOf?_map {item? : Json → Option α} {write : α → Json}
    (h : ∀ a, item? (write a) = some a) (as : List α) :
    listOf? item? (.arr (as.map write)) = some as :=
  mapM_map_eq_some h as

variable {read? : Json → Option α} {write : α → Json} {fields : List (String × Json)}
  {field : IntentField}

/-- An optional field is read back if its values are. -/
theorem optionalField?_eq_some (hread : ∀ a, read? (write a) = some a) (hnull : read? .null = none)
    {a? : Option α} (h : fields.lookup field.key = a?.map write) :
    optionalField? read? fields field = some a? := by
  cases a? with
  | none => rw [optionalField?, h]; rfl
  | some a =>
    have hne : write a ≠ .null := by
      intro he
      have hnone := hread a
      rw [he, hnull] at hnone
      cases hnone
    rw [optionalField?, h]
    simp [hread a]

/-- A list that is left out when it is empty is read back. -/
theorem listField?_eq_some {item? : Json → Option α} (hread : ∀ a, item? (write a) = some a)
    {as : List α} (h : fields.lookup field.key =
      if as.isEmpty then none else some (.arr (as.map write))) :
    fieldOr? [] (listOf? item?) fields field = some as := by
  rw [fieldOr?, h]
  cases as with
  | nil => rfl
  | cons a as => exact listOf?_map hread (a :: as)

end

/-- The form of an answer is read back from its name. -/
theorem formatField?_eq_some {fields : List (String × Json)} {field : IntentField}
    {format : OutputFormat}
    (h : fields.lookup field.key = some (.str (Vocabulary.name format))) :
    fieldOr? .narrative (fun v => (termName? v).bind OutputFormat.ofText?) fields field =
      some format := by
  rw [fieldOr?, h]
  cases format <;> rfl

/-- An intent is read from any fields that have its values under their keys. -/
theorem ofJson?_eq_some {fields : List (String × Json)} {intent : Intent}
    (h : ∀ field, fields.lookup field.key = intent.fieldValue field) :
    ofJson? (.obj fields) = some intent := by
  have htext : ∀ text : String, Json.text? (.str text) = some text := fun _ => rfl
  have hqueryType := optionalField?_eq_some termOf?_name rfl (h .queryType)
  have hsplit := optionalField?_eq_some termOf?_name rfl (h .splitType)
  have hmetrics := optionalField?_eq_some (listOf?_map htext) rfl (h .metrics)
  have hsubject := optionalField?_eq_some htext rfl (h .subjectName)
  have hseason := optionalField?_eq_some seasonOf?_toInt rfl (h .season)
  have hinnings := listField?_eq_some octetOf?_toNat (h .inning)
  have hstrikes := optionalField?_eq_some octetOf?_toNat rfl (h .strikes)
  have hballs := optionalField?_eq_some octetOf?_toNat rfl (h .balls)
  have hhand := optionalField?_eq_some termOf?_name rfl (h .pitcherThrows)
  have hpitches := listField?_eq_some htext (h .pitchType)
  have hscore := optionalField?_eq_some termOf?_name rfl (h .gameScore)
  have horder := optionalField?_eq_some htext rfl (h .orderBy)
  have hlimit := optionalField?_eq_some limitOf?_toNat rfl (h .limit)
  have hformat := formatField?_eq_some (h .outputFormat)
  have hfields : writtenFields? (.obj fields) = some fields := rfl
  rw [ofJson?, hfields, Option.bind_eq_bind, Option.bind_some, hqueryType, hsplit, hmetrics,
    hsubject, hseason, hinnings, hstrikes, hballs, hhand, hpitches, hscore, horder, hlimit, hformat]
  rfl

/-- An intent is read back from its compact text. -/
theorem ofJson?_parse?_compact (intent : Intent) :
    (Json.parse? intent.toJson.compact).bind ofJson? = some intent := by
  have hplain : ∀ f ∈ intent.written, Json.Plain (Json.nestingLimit - 1) f.2 := by
    intro f hf
    obtain ⟨field, -, hfield⟩ := List.mem_filterMap.1 hf
    obtain ⟨value, hvalue, rfl⟩ := Option.map_eq_some_iff.1 hfield
    exact plain_fieldValue intent hvalue 125
  obtain ⟨sorted, hsorted, hlookup⟩ := Json.object_eq_obj intent.written_nodup
  have hparse : Json.parse? intent.toJson.compact = some (.obj sorted) :=
    (Json.parse?_compact hplain).trans (congrArg some hsorted)
  rw [hparse, Option.bind_some]
  refine ofJson?_eq_some fun field => ?_
  rw [hlookup, lookup_written]

end Scorebook.Intent
