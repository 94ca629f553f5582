import Scorebook.Proofs.Answer.Situations
import Scorebook.Proofs.Intent.Acceptance
import Scorebook.Proofs.Intent.Written

/-!
# Validation is a projection

The values in the JSON form of the intent of a valid proposal are ones that validation accepts and
returns as they are. So the form stands for the same intent, with the same digest and the same plan.
-/

namespace Scorebook

namespace Intent

/-- Each field of an intent is present in its JSON form with the value that it has. -/
theorem present?_written (intent : Intent) (field : IntentField) :
    present? intent.written field = intent.fieldValue field := by
  rw [present?, lookup_written]
  cases hv : intent.fieldValue field with
  | none => rfl
  | some value => simp [intent.fieldValue_ne_null hv]

section again

variable {fields fields' : List (String × Json)} {field : IntentField} {α : Type}
  {check : IntentField → Json → Except Rejection α} {write : α → Json} {valid : α → Prop}

/-- An optional value that was accepted is accepted again in its written form. -/
theorem Accepts.optional_again (h : Accepts check write valid) {a? : Option α}
    (hok : optional check fields field = .ok a?) (hagain : present? fields' field = a?.map write) :
    optional check fields' field = .ok a? := by
  cases a? with
  | none => exact whenPresent_of_none hagain
  | some a =>
    have hvalid : valid a := h.valid_of_optional hok rfl
    rw [optional, whenPresent_of_some hagain]
    exact map_eq_ok_iff.2 ⟨a, h.ok_iff.2 ⟨rfl, hvalid⟩, rfl⟩

/-- Several values that were accepted are accepted again as a list, and none is dropped. -/
theorem Accepts.distinct_again [BEq α] [LawfulBEq α] (h : Accepts check write valid) {as : List α}
    (hok : whenPresent [] (distinctItems check) fields field = .ok as)
    (hagain : present? fields' field =
      if as.isEmpty then none else some (.arr (as.map write))) :
    whenPresent [] (distinctItems check) fields' field = .ok as := by
  obtain ⟨listed, -, hall, rfl⟩ := h.distinct_eq_ok_iff.1 hok
  have hkept : listed.eraseDups.eraseDups = listed.eraseDups :=
    eraseDups_of_nodup (keepsFirst_eraseDups listed).nodup
  cases hempty : listed.eraseDups.isEmpty with
  | true =>
    rw [hempty, if_pos rfl] at hagain
    rw [whenPresent_of_none hagain, List.isEmpty_iff.1 hempty]
  | false =>
    rw [hempty, if_neg Bool.false_ne_true] at hagain
    rw [whenPresent_of_some hagain, h.distinctItems_eq_ok_iff]
    exact ⟨_, rfl, fun a ha => hall a (List.mem_eraseDups.1 ha), hkept⟩

/-- The name of a player is accepted again. -/
theorem nameField_again {name? : Option String}
    (hok : whenPresent none nameValue fields field = .ok name?)
    (hagain : present? fields' field = name?.map .str) :
    whenPresent none nameValue fields' field = .ok name? := by
  cases name? with
  | none => exact whenPresent_of_none hagain
  | some name =>
    obtain ⟨hall, hsome⟩ := nameField_eq_ok_iff.1 hok
    obtain ⟨hne, hgives⟩ := (hsome name).1 rfl
    obtain ⟨other, hother, hname⟩ := hall _ hgives
    obtain rfl := Json.str.inj hother
    rw [whenPresent_of_some hagain, nameValue_eq_ok_iff]
    exact Or.inr ⟨name, rfl, hne, hname.resolve_left hne, rfl⟩

/-- The form of an answer is accepted under its name. -/
theorem formatField_again {format : OutputFormat}
    (hagain : present? fields' field = some (.str (Vocabulary.name format))) :
    whenPresent .narrative (termValue OutputFormat.ofText?) fields' field = .ok format := by
  rw [whenPresent_of_some hagain, formatValue_eq_ok_iff]
  exact Or.inl rfl

end again

end Intent

namespace Catalogue

variable {c : Catalogue} {proposal : Json} {fields fields' : List (String × Json)} {intent : Intent}

open Intent in
/-- What was read once is read again from fields with the values of the intent, whatever their order
and whatever else stands among them. -/
theorem Reads.again (h : c.Reads fields intent)
    (hagain : ∀ field, present? fields' field = intent.fieldValue field) :
    c.Reads fields' intent where
  subjectName := nameField_again h.subjectName (hagain .subjectName)
  season := seasonValue_accepts.optional_again h.season
    ((hagain .season).trans (Option.map_map ..).symm)
  queryType := termValue_accepts.optional_again h.queryType (hagain .queryType)
  split := termValue_accepts.optional_again h.split (hagain .splitType)
  metrics := metricsValue_accepts.optional_again h.metrics (hagain .metrics)
  orderBy := keyValue_accepts.optional_again h.orderBy (hagain .orderBy)
  pitcherHand := termValue_accepts.optional_again h.pitcherHand (hagain .pitcherThrows)
  innings := inningValue_accepts.distinct_again h.innings (by
    rw [hagain .inning, List.isEmpty_map, List.map_map]
    rfl)
  strikes := countValue_accepts.optional_again h.strikes
    ((hagain .strikes).trans (Option.map_map ..).symm)
  balls := countValue_accepts.optional_again h.balls
    ((hagain .balls).trans (Option.map_map ..).symm)
  pitchTypes := pitchValue_accepts.distinct_again h.pitchTypes (hagain .pitchType)
  score := termValue_accepts.optional_again h.score (hagain .gameScore)
  limit := limitValue_accepts.optional_again h.limit
    ((hagain .limit).trans (Option.map_map ..).symm)
  format := formatField_again (hagain .outputFormat)

/-- The JSON form of the intent of a valid proposal stands for that intent. -/
theorem validate_toJson (h : c.validate proposal = .ok intent) :
    c.validate intent.toJson = .ok intent := by
  obtain ⟨fields, rfl, hreads⟩ := validate_eq_ok_iff.1 h
  exact validate_obj_eq_ok_iff.2 (hreads.again intent.present?_written)

end Catalogue

/-- Validation is a projection: the JSON form of the intent of a proposal is valid and stands for
the same intent with the same digest, and it has the same plan as the proposal, whatever the
settings. -/
theorem Catalogue.validate_projects (c : Catalogue) (proposal : Json) :
    (∀ intent, c.validate proposal = .ok intent →
      c.validate intent.toJson = .ok intent ∧
        (c.validate intent.toJson).map Intent.fingerprint = .ok intent.fingerprint) ∧
      ∀ settings plan, Engine.plan ⟨c, settings⟩ proposal = .ok plan →
        Engine.plan ⟨c, settings⟩ plan.intent.toJson = .ok plan := by
  refine ⟨fun intent h => ?_, fun settings plan h => ?_⟩
  · have hagain := validate_toJson h
    exact ⟨hagain, map_eq_ok_iff.2 ⟨intent, hagain, rfl⟩⟩
  · obtain ⟨hvalid, hplan⟩ := Engine.plan_eq_ok_iff.1 h
    exact Engine.plan_eq_ok_iff.2 ⟨validate_toJson hvalid, hplan⟩

end Scorebook
