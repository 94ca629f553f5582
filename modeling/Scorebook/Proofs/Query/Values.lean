import Scorebook.Proofs.Lookup
import Scorebook.Query.Positional
import Scorebook.Query.Statement

/-!
# The values of a statement

The values that a statement binds are those that the intent has for some placeholders, in the order
of the placeholders. Under the name of a placeholder a query holds exactly the value of the intent,
and under any other name nothing.
-/

namespace Scorebook

namespace Intent

variable {intent : Intent} {binding : Binding}

/-- A placeholder stands with a value if it is wanted and the intent has that value. -/
theorem mem_valuesFor {slots : List Slot} {slot : Slot} {value : Param} :
    (slot, value) ∈ intent.valuesFor binding slots ↔
      slot ∈ slots ∧ intent.value? binding slot = some value := by
  simp only [valuesFor, List.mem_filterMap, Option.map_eq_some_iff, Prod.mk.injEq]
  constructor
  · rintro ⟨s, hs, v, hv, rfl, rfl⟩
    exact ⟨hs, hv⟩
  · rintro ⟨hs, hv⟩
    exact ⟨slot, hs, value, hv, rfl, rfl⟩

/-- The values for some placeholders stand before those for the next. -/
theorem valuesFor_append (slots more : List Slot) :
    intent.valuesFor binding (slots ++ more) =
      intent.valuesFor binding slots ++ intent.valuesFor binding more :=
  List.filterMap_append

/-- Only placeholders that are wanted get a value, in their order and at most once each. -/
theorem valuesFor_slots_sublist (slots : List Slot) :
    ((intent.valuesFor binding slots).map Prod.fst).Sublist slots := by
  induction slots with
  | nil => exact List.Sublist.slnil
  | cons slot slots ih =>
    rw [valuesFor, List.filterMap_cons]
    cases intent.value? binding slot with
    | none => exact List.Sublist.cons _ ih
    | some value => exact List.Sublist.cons_cons _ ih

/-- Whether an intent gives anything for a placeholder; there is always a limit. -/
def gives (intent : Intent) : Slot → Bool
  | .playerName => intent.subjectName.isSome
  | .season => intent.season.isSome
  | .innings => !intent.innings.isEmpty
  | .pitcherThrows => intent.pitcherHand.isSome
  | .pitchTypes => !intent.pitchTypes.isEmpty
  | .strikes => intent.strikes.isSome
  | .balls => intent.balls.isSome
  | .gameScore => intent.score.isSome
  | .limit => true

/-- There is a value for a placeholder exactly if the intent gives one. -/
theorem isSome_value? (intent : Intent) (binding : Binding) (slot : Slot) :
    (intent.value? binding slot).isSome = intent.gives slot := by
  cases slot <;> simp only [value?, gives, Option.isSome_map, Option.isSome_some]
  · cases intent.innings.isEmpty <;> rfl
  · cases intent.pitchTypes.isEmpty <;> rfl

/-- The value for a placeholder is a list exactly if the placeholder holds one. -/
theorem boundItems?_of_value? {slot : Slot} {value : Param}
    (h : intent.value? binding slot = some value) : value.boundItems?.isSome = slot.isList := by
  cases slot <;> simp only [value?, Option.map_eq_some_iff, Option.ite_none_left_eq_some,
    Option.some.injEq] at h
  case innings => obtain ⟨-, rfl⟩ := h; rfl
  case pitchTypes => obtain ⟨-, rfl⟩ := h; rfl
  case limit => obtain rfl := h; rfl
  all_goals obtain ⟨x, -, rfl⟩ := h; rfl

/-- Where the entries are named after the placeholders, no name stands with two values. -/
theorem singleValued_valuesFor (slots : List Slot) :
    Dict.SingleValued ((intent.valuesFor binding slots).map fun (slot, value) =>
      (Vocabulary.name slot, value)) := by
  intro key v w hv hw
  obtain ⟨⟨s, v'⟩, hs, he⟩ := List.mem_map.1 hv
  obtain ⟨⟨t, w'⟩, ht, hf⟩ := List.mem_map.1 hw
  obtain ⟨hk, rfl⟩ := Prod.mk.injEq .. ▸ he
  obtain ⟨hl, rfl⟩ := Prod.mk.injEq .. ▸ hf
  have hst : s = t := Vocabulary.name_injective (hk.trans hl.symm)
  subst hst
  exact Option.some.inj ((mem_valuesFor.1 hs).2.symm.trans (mem_valuesFor.1 ht).2)

end Intent

/-- Under the name of a placeholder a query holds the value of the intent, and nothing else. -/
theorem Statement.query_param?_iff {s : Statement} {intent : Intent} {binding : Binding}
    {slots : List Slot} (h : s.values = intent.valuesFor binding slots) {name : String}
    {value : Param} :
    s.query.param? name = some value ↔
      ∃ slot ∈ slots, Vocabulary.name slot = name ∧ intent.value? binding slot = some value := by
  have hs := @Intent.singleValued_valuesFor intent binding slots
  rw [Query.param?, Statement.query, h, Dict.get?_ofList_iff hs, List.mem_map]
  constructor
  · rintro ⟨⟨slot, v⟩, hm, he⟩
    obtain ⟨hn, rfl⟩ := Prod.mk.injEq .. ▸ he
    obtain ⟨hslot, hv⟩ := Intent.mem_valuesFor.1 hm
    exact ⟨slot, hslot, hn, hv⟩
  · rintro ⟨slot, hslot, rfl, hv⟩
    exact ⟨(slot, value), Intent.mem_valuesFor.2 ⟨hslot, hv⟩, rfl⟩

end Scorebook
