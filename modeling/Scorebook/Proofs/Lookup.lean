import Mathlib.Data.List.Induction
import Mathlib.Data.List.Nodup
import Scorebook.Dict
import Scorebook.Intent.Vocabulary

/-!
# Dictionaries as sets of entries

What is found under a key is an entry, and every entry is found. A dictionary made of a list has
exactly the entries of the list if no key occurs with two values; the order of the list is lost,
nothing else.
-/

namespace Scorebook

/-- Names tell the terms of a vocabulary apart. -/
theorem Vocabulary.name_injective {α : Type} [Vocabulary α] :
    Function.Injective (name : α → String) := by
  intro a b hab
  exact eq_of_mem_of_name_eq distinct (complete a) (complete b) hab

/-- Among entries with ascending keys, the first under a key is the only one. -/
theorem Ascending.lookup_eq_some_iff {α : Type} {entries : List (String × α)}
    (h : Ascending entries) {key : String} {value : α} :
    entries.lookup key = some value ↔ (key, value) ∈ entries := by
  induction entries with
  | nil => simp
  | cons e rest ih =>
    obtain ⟨k, v⟩ := e
    obtain ⟨hk, hr⟩ := List.pairwise_cons.1 h
    rw [lookup_cons_eq, List.mem_cons, Prod.mk.injEq]
    by_cases he : key = k
    · subst he
      have hn : (key, value) ∉ rest := fun hm => String.lt_irrefl key (hk (key, value) hm)
      rw [if_pos rfl, Option.some.injEq]
      exact ⟨fun hv => Or.inl ⟨rfl, hv.symm⟩, fun hm => (hm.resolve_right hn).2.symm⟩
    · simp [he, ih hr]

/-- An entry with a greater key than all others is put in behind them. -/
theorem insertEntry_of_last {α : Type} {entries : List (String × α)} {key : String} {value : α}
    (h : ∀ e ∈ entries, e.1 < key) :
    insertEntry key value entries = entries ++ [(key, value)] := by
  induction entries with
  | nil => rfl
  | cons e rest ih =>
    obtain ⟨hlt, hrest⟩ := List.forall_mem_cons.1 h
    have hne : key ≠ e.1 := fun he => String.lt_irrefl key (he ▸ hlt)
    rw [insertEntry, if_neg (String.lt_asymm hlt), if_neg hne, ih hrest, List.cons_append]

namespace Dict

variable {α : Type}

/-- The values under keys are the entries. -/
theorem get?_eq_some_iff {d : Dict α} {key : String} {value : α} :
    d.get? key = some value ↔ (key, value) ∈ d.entries :=
  d.ascending.lookup_eq_some_iff

/-- A key is listed exactly where there is a value under it. -/
theorem mem_keys_iff {d : Dict α} {key : String} :
    key ∈ d.keys ↔ ∃ value, d.get? key = some value := by
  simp [keys, get?_eq_some_iff]

/-- What is found under a key is listed among the values. -/
theorem mem_values_of_get? {d : Dict α} {key : String} {value : α} (h : d.get? key = some value) :
    value ∈ d.values :=
  List.mem_map.2 ⟨(key, value), get?_eq_some_iff.1 h, rfl⟩

/-- No key is listed twice. -/
theorem keys_nodup (d : Dict α) : d.keys.Nodup := by
  refine (List.pairwise_map.2 d.ascending).imp ?_
  intro k k' hlt he
  exact String.lt_irrefl k (he ▸ hlt)

/-- No key stands with two values. -/
def SingleValued (entries : List (String × α)) : Prop :=
  ∀ key v w, (key, v) ∈ entries → (key, w) ∈ entries → v = w

/-- The last entry of a list is put in last. -/
theorem ofList_concat (entries : List (String × α)) (e : String × α) :
    ofList (entries ++ [e]) = (ofList entries).insert e.1 e.2 := by
  simp [ofList, List.foldl_append]

/-- A dictionary has the entries of the list that it is made of. -/
theorem get?_ofList_iff {entries : List (String × α)} (h : SingleValued entries) {key : String}
    {value : α} : (ofList entries).get? key = some value ↔ (key, value) ∈ entries := by
  induction entries using List.reverseRecOn with
  | nil => simp [ofList]
  | append_singleton entries e ih =>
    have hsub : SingleValued entries := fun k v w hv hw =>
      h k v w (List.mem_append_left _ hv) (List.mem_append_left _ hw)
    rw [ofList_concat, get?_insert, List.mem_append, List.mem_singleton]
    by_cases he : key = e.1
    · subst he
      rw [if_pos rfl, Option.some.injEq]
      constructor
      · rintro rfl
        exact Or.inr rfl
      · rintro (hm | hm)
        · exact h e.1 e.2 value (by simp) (List.mem_append_left _ hm)
        · exact (congrArg Prod.snd hm).symm
    · rw [if_neg he, ih hsub]
      have hne : (key, value) ≠ e := fun hm => he (congrArg Prod.fst hm)
      simp [hne]

/-- Among the entries of a dictionary are only those of the list that it is made of. -/
theorem mem_of_get?_ofList {entries : List (String × α)} {key : String} {value : α}
    (h : (ofList entries).get? key = some value) : (key, value) ∈ entries := by
  induction entries using List.reverseRecOn with
  | nil => cases h
  | append_singleton entries e ih =>
    rw [ofList_concat, get?_insert] at h
    by_cases he : key = e.1
    · subst he
      rw [if_pos rfl, Option.some.injEq] at h
      exact List.mem_append_right _ (List.mem_singleton.2 (Prod.ext rfl h.symm))
    · rw [if_neg he] at h
      exact List.mem_append_left _ (ih h)

/-- A key is listed exactly where the dictionary contains it. -/
theorem contains_iff {d : Dict α} {key : String} : d.contains key = true ↔ key ∈ d.keys := by
  rw [contains, Option.isSome_iff_exists, mem_keys_iff]

/-- The keys of a dictionary are those of the list that it is made of. -/
theorem mem_keys_ofList {entries : List (String × α)} {key : String} :
    key ∈ (ofList entries).keys ↔ key ∈ entries.map Prod.fst := by
  induction entries using List.reverseRecOn with
  | nil => rfl
  | append_singleton entries e ih =>
    rw [mem_keys_iff] at ih ⊢
    rw [ofList_concat, get?_insert, List.map_append, List.mem_append, List.map_singleton,
      List.mem_singleton, ← ih]
    by_cases he : key = e.1
    · simp [he]
    · simp [he]

/-- The last entry of a list under a key is the one that is found. -/
theorem get?_ofList_of_last {entries : List (String × α)} {i : Nat} {key : String} {value : α}
    (h : entries[i]? = some (key, value))
    (hlast : ∀ (j : Nat) v, i < j → entries[j]? ≠ some (key, v)) :
    (ofList entries).get? key = some value := by
  induction entries using List.reverseRecOn with
  | nil => cases h
  | append_singleton entries e ih =>
    rw [ofList_concat, get?_insert]
    by_cases hi : i < entries.length
    · have hne : key ≠ e.1 := by
        rintro rfl
        exact hlast entries.length e.2 hi List.getElem?_concat_length
      have hkept (j : Nat) (hj : j < entries.length) : (entries ++ [e])[j]? = entries[j]? :=
        List.getElem?_append_left hj
      rw [if_neg hne]
      refine ih (hkept i hi ▸ h) fun j v hij hv => ?_
      have hj : j < entries.length := (List.getElem?_eq_some_iff.1 hv).1
      exact hlast j v hij ((hkept j hj).trans hv)
    · have hlength := (List.getElem?_eq_some_iff.1 h).1
      rw [List.length_append, List.length_singleton] at hlength
      obtain rfl : i = entries.length := by omega
      obtain rfl : e = (key, value) :=
        Option.some.inj (List.getElem?_concat_length.symm.trans h)
      exact if_pos rfl

/-- What holds of every value of a list holds of what is found in its dictionary. -/
theorem of_get?_ofList {entries : List (String × α)} {p : α → Prop}
    (hall : ∀ e ∈ entries, p e.2) {key : String} {value : α}
    (h : (ofList entries).get? key = some value) : p value :=
  hall (key, value) (mem_of_get?_ofList h)

/-- Where no key is listed twice, no key stands with two values. -/
theorem singleValued_of_nodup {entries : List (String × α)}
    (h : (entries.map Prod.fst).Nodup) : SingleValued entries := by
  intro key v w hv hw
  have he : ((key, v) : String × α) = (key, w) := List.inj_on_of_nodup_map h hv hw rfl
  exact congrArg Prod.snd he

/-- The keys of such a dictionary are those that are listed. -/
theorem keys_ofList_perm {entries : List (String × α)} (h : (entries.map Prod.fst).Nodup) :
    (ofList entries).keys.Perm (entries.map Prod.fst) := by
  apply (List.perm_ext_iff_of_nodup (keys_nodup _) h).2
  intro key
  simp only [mem_keys_iff, get?_ofList_iff (singleValued_of_nodup h), List.mem_map]
  constructor
  · rintro ⟨value, hmem⟩
    exact ⟨(key, value), hmem, rfl⟩
  · rintro ⟨⟨key', value⟩, hmem, rfl⟩
    exact ⟨value, hmem⟩

/-- Ascending entries are kept as they are. -/
theorem entries_ofList {entries : List (String × α)} (h : Ascending entries) :
    (ofList entries).entries = entries := by
  induction entries using List.reverseRecOn with
  | nil => rfl
  | append_singleton entries e ih =>
    obtain ⟨hentries, -, hlast⟩ := List.pairwise_append.1 h
    rw [ofList_concat]
    change insertEntry e.1 e.2 (ofList entries).entries = entries ++ [e]
    rw [ih hentries]
    exact insertEntry_of_last fun other hm => hlast other hm e List.mem_cons_self

/-- A dictionary is made of its own entries. -/
theorem ofList_entries (d : Dict α) : ofList d.entries = d :=
  ext (entries_ofList d.ascending)

end Dict

/-- The members of a set are those that it is made of. -/
theorem KeySet.mem_keys_of {names : List String} {name : String} :
    name ∈ (KeySet.of names).keys ↔ name ∈ names := by
  rw [KeySet.of, Dict.mem_keys_ofList, List.map_map]
  exact iff_of_eq (congrArg (name ∈ ·) (List.map_id names))

/-- A set is made of its own members. -/
theorem KeySet.of_keys (s : KeySet) : KeySet.of s.keys = s := by
  have hentries : s.keys.map (fun name => (name, ())) = s.entries := by
    rw [Dict.keys, List.map_map]
    exact List.map_id _
  rw [KeySet.of, hentries, Dict.ofList_entries]

end Scorebook
