import Scorebook.Proofs.Intent.Grammar
import Scorebook.Proofs.Repetition

/-!
# The fields of a proposal

What a proposal gives for a field is the value under its key, unless that is `null`. A check of a
field is made on what is given; so the field is accepted exactly if that is a value of its kind, and
the result is this value, or what stands for a field that is not given.
-/

namespace Scorebook

namespace Json

/-- A proposal gives a value for a field: it holds the value under the key of the field, and the
value is not `null`. -/
def Gives (proposal : Json) (field : IntentField) (value : Json) : Prop :=
  proposal.field? field.key = some value ∧ value ≠ .null

/-- A proposal lists values for a field: those of a list, a single value by itself, or none if it
gives nothing. -/
def Lists (proposal : Json) (field : IntentField) (values : List Json) : Prop :=
  (values = [] ∧ ∀ value, ¬ proposal.Gives field value) ∨
    ∃ value, proposal.Gives field value ∧
      (value = .arr values ∨ (value.items? = none ∧ values = [value]))

/-- A whole number between two bounds. -/
def IsWhole (low high : Int) (value : Json) : Prop := ∃ n, value = .int n ∧ low ≤ n ∧ n ≤ high

/-- The name of a term. -/
def IsTerm (α : Type) [Vocabulary α] (value : Json) : Prop :=
  ∃ term : α, value = .str (Vocabulary.name term)

/-- A value of some kind, or a list of such values. -/
def IsOneOrMany (kind : Json → Prop) (value : Json) : Prop :=
  kind value ∨ ∃ items, value = .arr items ∧ ∀ item ∈ items, kind item

/-- No proposal gives two values for a field. -/
theorem Gives.unique {proposal v w : Json} {field : IntentField} (hv : proposal.Gives field v)
    (hw : proposal.Gives field w) : v = w :=
  Option.some.inj (hv.1.symm.trans hw.1)

end Json

namespace Intent

section fields

variable {fields : List (String × Json)} {field : IntentField} {α : Type}
  {check : IntentField → Json → Except Rejection α} {write : α → Json} {valid : α → Prop}

/-- A field is present with the value that the object gives for it. -/
theorem present?_eq_some_iff {value : Json} :
    present? fields field = some value ↔ (Json.obj fields).Gives field value := by
  have hnull : value.isNull = false ↔ value ≠ .null := by
    cases value <;> simp [Json.isNull]
  simp [present?, Json.Gives, Json.field?, Json.fields?, Option.filter_eq_some_iff, hnull]

/-- A field is absent if the object gives no value for it. -/
theorem present?_eq_none_iff :
    present? fields field = none ↔ ∀ value, ¬ (Json.obj fields).Gives field value := by
  simp [Option.eq_none_iff_forall_ne_some, ← present?_eq_some_iff]

/-- A field that is present is checked. -/
theorem whenPresent_of_some {absent : α} {value : Json} (h : present? fields field = some value) :
    whenPresent absent check fields field = check field value := by
  rw [whenPresent, h]

/-- A field that is not present has the value for that case. -/
theorem whenPresent_of_none {absent : α} (h : present? fields field = none) :
    whenPresent absent check fields field = .ok absent := by
  rw [whenPresent, h]

/-- A field that is given is checked, and for one that is not there is a value beforehand. -/
theorem whenPresent_eq_ok_iff {absent a : α} :
    whenPresent absent check fields field = .ok a ↔
      ((∀ value, ¬ (Json.obj fields).Gives field value) ∧ a = absent) ∨
        ∃ value, (Json.obj fields).Gives field value ∧ check field value = .ok a := by
  rw [← present?_eq_none_iff, whenPresent]
  simp only [← present?_eq_some_iff]
  cases present? fields field with
  | none => simp [eq_comm]
  | some value => simp

/-- A field is accepted if the check accepts whatever value is given. -/
theorem exists_whenPresent {absent : α}
    (hall : ∀ value, (Json.obj fields).Gives field value → ∃ a, check field value = .ok a) :
    ∃ a, whenPresent absent check fields field = .ok a := by
  by_cases hgiven : ∃ value, (Json.obj fields).Gives field value
  · obtain ⟨value, hvalue⟩ := hgiven
    obtain ⟨a, ha⟩ := hall value hvalue
    exact ⟨a, whenPresent_eq_ok_iff.2 (Or.inr ⟨value, hvalue, ha⟩)⟩
  · exact ⟨absent, whenPresent_eq_ok_iff.2 (Or.inl ⟨not_exists.1 hgiven, rfl⟩)⟩

/-- An optional field is accepted if a given value is, and the result is that very value. -/
theorem Accepts.optional_eq_ok_iff (h : Accepts check write valid) {a? : Option α} :
    optional check fields field = .ok a? ↔
      (∀ value, (Json.obj fields).Gives field value → ∃ a, value = write a ∧ valid a) ∧
        ∀ a, a? = some a ↔ (Json.obj fields).Gives field (write a) := by
  rw [optional, whenPresent_eq_ok_iff]
  simp only [map_eq_ok_iff, h.ok_iff]
  constructor
  · rintro (⟨hnone, rfl⟩ | ⟨value, hgives, a, ⟨rfl, ha⟩, rfl⟩)
    · refine ⟨fun value hvalue => absurd hvalue (hnone value), fun a => ?_⟩
      simp [hnone (write a)]
    · refine ⟨fun value hvalue => ⟨a, hvalue.unique hgives, ha⟩, fun b => ?_⟩
      rw [Option.some.injEq]
      constructor
      · rintro rfl
        exact hgives
      · intro hb
        exact h.injective (hgives.unique hb)
  · rintro ⟨hall, hsome⟩
    by_cases hgiven : ∃ value, (Json.obj fields).Gives field value
    · obtain ⟨value, hvalue⟩ := hgiven
      obtain ⟨a, rfl, ha⟩ := hall value hvalue
      exact Or.inr ⟨_, hvalue, a, ⟨rfl, ha⟩, ((hsome a).2 hvalue).symm⟩
    · refine Or.inl ⟨not_exists.1 hgiven, Option.eq_none_iff_forall_ne_some.2 fun a ha => ?_⟩
      exact hgiven ⟨_, (hsome a).1 ha⟩

/-- What an optional field results in has the property that its check asks for. -/
theorem Accepts.valid_of_optional (h : Accepts check write valid) {a? : Option α}
    (hok : optional check fields field = .ok a?) {a : α} (ha : a ∈ a?) : valid a := by
  obtain ⟨hall, hsome⟩ := h.optional_eq_ok_iff.1 hok
  obtain ⟨b, hb, hvalid⟩ := hall _ ((hsome a).1 ha)
  rwa [h.injective hb]

/-- An optional field is accepted if a given value is one that the check accepts. -/
theorem Accepts.exists_optional (h : Accepts check write valid)
    (hall : ∀ value, (Json.obj fields).Gives field value → ∃ a, value = write a ∧ valid a) :
    ∃ a?, optional check fields field = .ok a? := by
  refine exists_whenPresent fun value hvalue => ?_
  obtain ⟨a, ha⟩ := hall value hvalue
  exact ⟨some a, map_eq_ok_iff.2 ⟨a, h.ok_iff.2 ha, rfl⟩⟩

/-- The items of a value are those of a list, or the value by itself. -/
theorem itemsOrOne_eq_iff {value : Json} {items : List Json} :
    itemsOrOne value = items ↔ value = .arr items ∨ (value.items? = none ∧ items = [value]) := by
  cases value <;> simp [itemsOrOne, Json.items?, eq_comm]

/-- A field with several values is accepted if all listed values are; the first of each is kept. -/
theorem Accepts.distinct_eq_ok_iff [BEq α] (h : Accepts check write valid) {as : List α} :
    whenPresent [] (distinctItems check) fields field = .ok as ↔
      ∃ listed : List α, (Json.obj fields).Lists field (listed.map write) ∧
        (∀ a ∈ listed, valid a) ∧ listed.eraseDups = as := by
  rw [whenPresent_eq_ok_iff]
  simp only [h.distinctItems_eq_ok_iff, itemsOrOne_eq_iff]
  constructor
  · rintro (⟨hnone, rfl⟩ | ⟨value, hgives, listed, hitems, hall, has⟩)
    · exact ⟨[], Or.inl ⟨rfl, hnone⟩, List.forall_mem_nil _, rfl⟩
    · exact ⟨listed, Or.inr ⟨value, hgives, hitems⟩, hall, has⟩
  · rintro ⟨listed, ⟨hnil, hnone⟩ | ⟨value, hgives, hitems⟩, hall, has⟩
    · obtain rfl := List.map_eq_nil_iff.1 hnil
      exact Or.inl ⟨hnone, has.symm⟩
    · exact Or.inr ⟨value, hgives, listed, hitems, hall, has⟩

/-- What a field with several values is given is one value of the right kind, or a list of them. -/
theorem Accepts.isOneOrMany_of_distinct [BEq α] (h : Accepts check write valid) {as : List α}
    (hok : whenPresent [] (distinctItems check) fields field = .ok as) {value : Json}
    (hvalue : (Json.obj fields).Gives field value) :
    value.IsOneOrMany fun item => ∃ a, item = write a ∧ valid a := by
  obtain ⟨listed, hlists, hall, -⟩ := h.distinct_eq_ok_iff.1 hok
  rcases hlists with ⟨-, hnone⟩ | ⟨value', hgives, hitems⟩
  · exact absurd hvalue (hnone value)
  obtain rfl := hvalue.unique hgives
  rcases hitems with rfl | ⟨-, hone⟩
  · refine Or.inr ⟨_, rfl, fun item hitem => ?_⟩
    obtain ⟨a, ha, rfl⟩ := List.mem_map.1 hitem
    exact ⟨a, rfl, hall a ha⟩
  · have hmem : value ∈ listed.map write := hone ▸ List.mem_singleton_self value
    obtain ⟨a, ha, rfl⟩ := List.mem_map.1 hmem
    exact Or.inl ⟨a, rfl, hall a ha⟩

/-- Items of one kind are the written forms of values. -/
theorem exists_map_write {items : List Json}
    (hall : ∀ item ∈ items, ∃ a, item = write a ∧ valid a) :
    ∃ listed : List α, listed.map write = items ∧ ∀ a ∈ listed, valid a := by
  induction items with
  | nil => exact ⟨[], rfl, List.forall_mem_nil _⟩
  | cons item items ih =>
    obtain ⟨⟨a, rfl, ha⟩, hrest⟩ := List.forall_mem_cons.1 hall
    obtain ⟨listed, rfl, hlisted⟩ := ih hrest
    exact ⟨a :: listed, rfl, List.forall_mem_cons.2 ⟨ha, hlisted⟩⟩

/-- A field with several values is accepted if it is given one value of the right kind, or a list
of them. -/
theorem Accepts.exists_distinct [BEq α] (h : Accepts check write valid)
    (hsingle : ∀ a, (write a).items? = none)
    (hall : ∀ value, (Json.obj fields).Gives field value →
      value.IsOneOrMany fun item => ∃ a, item = write a ∧ valid a) :
    ∃ as, whenPresent [] (distinctItems check) fields field = .ok as := by
  refine exists_whenPresent fun value hvalue => ?_
  simp only [h.distinctItems_eq_ok_iff, itemsOrOne_eq_iff]
  rcases hall value hvalue with ⟨a, rfl, ha⟩ | ⟨items, rfl, hitems⟩
  · exact ⟨_, [a], Or.inr ⟨hsingle a, rfl⟩, List.forall_mem_singleton.2 ha, rfl⟩
  · obtain ⟨listed, rfl, hlisted⟩ := exists_map_write hitems
    exact ⟨_, listed, Or.inl rfl, hlisted, rfl⟩

/-- The field of the name is accepted if a given value is a name or empty, and the result is a name
that is given and not empty. -/
theorem nameField_eq_ok_iff {name? : Option String} :
    whenPresent none nameValue fields field = .ok name? ↔
      (∀ value, (Json.obj fields).Gives field value →
        ∃ name, value = .str name ∧ (name = "" ∨ IsPlayerName name)) ∧
        ∀ name, name? = some name ↔
          name ≠ "" ∧ (Json.obj fields).Gives field (.str name) := by
  rw [whenPresent_eq_ok_iff]
  simp only [nameValue_eq_ok_iff]
  constructor
  · rintro (⟨hnone, rfl⟩ | ⟨value, hgives, ⟨rfl, rfl⟩ | ⟨name, rfl, hne, hname, rfl⟩⟩)
    · refine ⟨fun value hvalue => absurd hvalue (hnone value), fun name => ?_⟩
      simp [hnone (.str name)]
    · refine ⟨fun value hvalue => ⟨"", hvalue.unique hgives, Or.inl rfl⟩, fun name => ?_⟩
      refine ⟨fun he => absurd he (Option.some_ne_none name).symm, fun ⟨hne, hvalue⟩ => ?_⟩
      exact absurd (Json.str.inj (hvalue.unique hgives)) hne
    · refine ⟨fun value hvalue => ⟨name, hvalue.unique hgives, Or.inr hname⟩, fun other => ?_⟩
      rw [Option.some.injEq]
      constructor
      · rintro rfl
        exact ⟨hne, hgives⟩
      · rintro ⟨-, hother⟩
        exact Json.str.inj (hgives.unique hother)
  · rintro ⟨hall, hsome⟩
    by_cases hgiven : ∃ value, (Json.obj fields).Gives field value
    · obtain ⟨value, hvalue⟩ := hgiven
      obtain ⟨name, rfl, hname⟩ := hall value hvalue
      refine Or.inr ⟨_, hvalue, ?_⟩
      by_cases hempty : name = ""
      · refine Or.inl ⟨congrArg Json.str hempty, ?_⟩
        rw [Option.eq_none_iff_forall_ne_some]
        intro other hother
        obtain ⟨hne, hgives⟩ := (hsome other).1 hother
        exact hne ((Json.str.inj (hgives.unique hvalue)).trans hempty)
      · exact Or.inr ⟨name, rfl, hempty, hname.resolve_left hempty, (hsome name).2 ⟨hempty, hvalue⟩⟩
    · refine Or.inl ⟨not_exists.1 hgiven, Option.eq_none_iff_forall_ne_some.2 fun name hname => ?_⟩
      exact hgiven ⟨_, ((hsome name).1 hname).2⟩

/-- The field of the name is accepted if a given value is a name or empty. -/
theorem exists_nameField (hall : ∀ value, (Json.obj fields).Gives field value →
    ∃ name, value = .str name ∧ (name = "" ∨ IsPlayerName name)) :
    ∃ name?, whenPresent none nameValue fields field = .ok name? := by
  refine exists_whenPresent fun value hvalue => ?_
  obtain ⟨name, rfl, hname⟩ := hall value hvalue
  by_cases hempty : name = ""
  · exact ⟨none, nameValue_eq_ok_iff.2 (Or.inl ⟨congrArg Json.str hempty, rfl⟩)⟩
  · exact ⟨some name, nameValue_eq_ok_iff.2
      (Or.inr ⟨name, rfl, hempty, hname.resolve_left hempty, rfl⟩)⟩

/-- The field of the format is accepted if a given value is a form of an answer or a sentence, and
the result is a table exactly if a table is given. -/
theorem formatField_eq_ok_iff {format : OutputFormat} :
    whenPresent .narrative (termValue OutputFormat.ofText?) fields field = .ok format ↔
      (∀ value, (Json.obj fields).Gives field value →
        value.IsTerm OutputFormat ∨ value = .str "sentence") ∧
        (format = .table ↔
          (Json.obj fields).Gives field (.str (Vocabulary.name OutputFormat.table))) := by
  rw [whenPresent_eq_ok_iff]
  simp only [formatValue_eq_ok_iff]
  constructor
  · rintro (⟨hnone, rfl⟩ | ⟨value, hgives, rfl | ⟨rfl, rfl⟩⟩)
    · refine ⟨fun value hvalue => absurd hvalue (hnone value), ?_⟩
      simp [hnone (.str (Vocabulary.name OutputFormat.table))]
    · refine ⟨fun value hvalue => Or.inl ⟨format, hvalue.unique hgives⟩, ?_, fun htable => ?_⟩
      · rintro rfl
        exact hgives
      · exact Vocabulary.name_injective (Json.str.inj (hgives.unique htable))
    · refine ⟨fun value hvalue => Or.inr (hvalue.unique hgives), ?_, fun htable => ?_⟩
      · intro hformat
        cases hformat
      · exact absurd (Json.str.inj (hgives.unique htable)) (by decide)
  · rintro ⟨hall, htable⟩
    by_cases hgiven : ∃ value, (Json.obj fields).Gives field value
    · obtain ⟨value, hvalue⟩ := hgiven
      refine Or.inr ⟨value, hvalue, ?_⟩
      have hnarrative (hne : value ≠ .str (Vocabulary.name OutputFormat.table)) :
          format = .narrative := by
        cases format with
        | narrative => rfl
        | table => exact absurd (hvalue.unique (htable.1 rfl)) hne
      rcases hall value hvalue with ⟨term, rfl⟩ | rfl
      · cases term with
        | narrative =>
          obtain rfl := hnarrative fun he => absurd (Json.str.inj he) (by decide)
          exact Or.inl rfl
        | table =>
          obtain rfl := htable.2 hvalue
          exact Or.inl rfl
      · exact Or.inr ⟨rfl, hnarrative fun he => absurd (Json.str.inj he) (by decide)⟩
    · refine Or.inl ⟨not_exists.1 hgiven, ?_⟩
      cases format with
      | narrative => rfl
      | table => exact absurd ⟨_, htable.1 rfl⟩ hgiven

/-- The field of the format is accepted if a given value is a form of an answer or a sentence. -/
theorem exists_formatField (hall : ∀ value, (Json.obj fields).Gives field value →
    value.IsTerm OutputFormat ∨ value = .str "sentence") :
    ∃ format, whenPresent .narrative (termValue OutputFormat.ofText?) fields field =
      .ok format := by
  refine exists_whenPresent fun value hvalue => ?_
  rcases hall value hvalue with ⟨format, rfl⟩ | rfl
  · exact ⟨format, formatValue_eq_ok_iff.2 (Or.inl rfl)⟩
  · exact ⟨.narrative, formatValue_eq_ok_iff.2 (Or.inr ⟨rfl, rfl⟩)⟩

end fields

end Intent

end Scorebook
