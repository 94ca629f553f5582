import Mathlib.Data.List.Basic
import Scorebook.Intent.Validation
import Scorebook.Proofs.Lookup
import Scorebook.Proofs.Outcome

/-!
# The values of a field

What may stand in a field of a proposal, said without the checks: names of players and of pitches by
their characters, numbers by their bounds, terms by their names. Every check accepts exactly the
written forms of the values of its field and returns the value itself. The tokens of SQL are looked
for in the full capitals of a name; as a name has no other characters than those below, its capitals
are those of the basic alphabet.
-/

namespace Scorebook

/-- A letter of the basic Latin alphabet. -/
def IsLetter (c : Char) : Prop := ('A' ≤ c ∧ c ≤ 'Z') ∨ ('a' ≤ c ∧ c ≤ 'z')

/-- The name of a player. -/
structure IsPlayerName (name : String) : Prop where
  /-- It has at most 100 characters. -/
  length_le : name.length ≤ 100
  /-- They are letters, blanks, full stops, hyphens and apostrophes. -/
  chars : ∀ c ∈ name.toList, IsLetter c ∨ Text.isBlank c = true ∨ c = '.' ∨ c = '-' ∨ c = '\''
  /-- In capitals, no token of SQL occurs in it. -/
  tokens : ∀ token ∈ sqlTokens, ¬ token.toList <:+: name.toList.map Char.toUpper

/-- The name of a type of pitch. -/
structure IsPitchName (name : String) : Prop where
  /-- It is not empty. -/
  one_le_length : 1 ≤ name.length
  /-- It has at most 50 characters. -/
  length_le : name.length ≤ 50
  /-- They are letters, spaces and hyphens. -/
  chars : ∀ c ∈ name.toList, IsLetter c ∨ c = ' ' ∨ c = '-'

/-- The metrics that may be asked for: the word for the defaults by itself, or known metrics. -/
def Catalogue.IsMetricList (c : Catalogue) (metrics : List String) : Prop :=
  metrics = ["main_stats"] ∨ ∀ metric ∈ metrics, c.knowsMetric metric = true

/-- The letters are the characters that core calls alphabetic. -/
theorem isAlpha_iff {c : Char} : c.isAlpha = true ↔ IsLetter c := by
  have hcapital : c.isUpper = decide ('A'.val ≤ c.val ∧ c.val ≤ 'Z'.val) := rfl
  have hsmall : c.isLower = (decide ('a'.val ≤ c.val) && decide (c.val ≤ 'z'.val)) := rfl
  have halpha : c.isAlpha = (c.isUpper || c.isLower) := rfl
  simp [IsLetter, halpha, hcapital, hsmall, Char.le_def]

/-- The characters of names are those listed. -/
theorem isNameChar_iff {c : Char} :
    isNameChar c = true ↔
      IsLetter c ∨ Text.isBlank c = true ∨ c = '.' ∨ c = '-' ∨ c = '\'' := by
  simp [isNameChar, isAlpha_iff, or_assoc]

/-- The characters of types of pitch are those listed. -/
theorem isPitchChar_iff {c : Char} : isPitchChar c = true ↔ IsLetter c ∨ c = ' ' ∨ c = '-' := by
  simp [isPitchChar, isAlpha_iff, or_assoc]

/-- A blank is its own capital, also outside the basic characters. -/
theorem upperChar_of_isBlank {c : Char} (h : Text.isBlank c = true) :
    Text.upperChar c = [c.toUpper] := by
  have hcodes : ∀ n ∈ Text.blankRanges.flatMap fun r => List.range' r.1 (r.2 + 1 - r.1),
      Text.upperChar (Char.ofNat n) = [(Char.ofNat n).toUpper] := by
    decide +kernel
  simp only [Text.isBlank, List.any_eq_true, Bool.and_eq_true, decide_eq_true_eq] at h
  obtain ⟨range, hrange, hlow, hhigh⟩ := h
  have hcode := hcodes c.toNat
    (List.mem_flatMap.2 ⟨range, hrange, List.mem_range'_1.2 ⟨hlow, by omega⟩⟩)
  rwa [Char.ofNat_toNat] at hcode

/-- A basic character has the capital that core gives it. -/
theorem upperChar_of_lt {c : Char} (h : c.toNat < 0x80) : Text.upperChar c = [c.toUpper] := by
  rw [Text.upperChar, if_pos h]

/-- The characters of names have the capitals of the basic alphabet. -/
theorem upperChar_of_isNameChar {c : Char} (h : isNameChar c = true) :
    Text.upperChar c = [c.toUpper] := by
  rcases isNameChar_iff.1 h with (⟨-, hle⟩ | ⟨-, hle⟩) | hblank | rfl | rfl | rfl
  · exact upperChar_of_lt (Nat.lt_of_le_of_lt hle (by decide))
  · exact upperChar_of_lt (Nat.lt_of_le_of_lt hle (by decide))
  · exact upperChar_of_isBlank hblank
  all_goals exact upperChar_of_lt (by decide)

/-- So the full capitals of a name are taken character by character. -/
theorem upper_of_isNameChar {cs : List Char} (h : ∀ c ∈ cs, isNameChar c = true) :
    Text.upper cs = cs.map Char.toUpper := by
  induction cs with
  | nil => rfl
  | cons c cs ih =>
    have hc := upperChar_of_isNameChar (h c List.mem_cons_self)
    have hcs := ih fun d hd => h d (List.mem_cons_of_mem _ hd)
    rw [Text.upper, List.flatMap_cons, hc, ← Text.upper, hcs]
    rfl

/-- There is no token in a name exactly if none occurs in its full capitals. -/
theorem tokenIn?_eq_none_iff {name : String} :
    tokenIn? name = none ↔
      ∀ token ∈ sqlTokens, ¬ token.toList <:+: Text.upper name.toList := by
  simp only [tokenIn?, List.find?_eq_none, Text.occursIn_iff]

/-- The two checks of a name together are those on its characters and on its basic capitals. -/
theorem isPlayerName_iff {name : String} :
    IsPlayerName name ↔
      name.length ≤ maxNameLength ∧ tokenIn? name = none ∧ name.toList.all isNameChar = true := by
  rw [tokenIn?_eq_none_iff, List.all_eq_true]
  constructor
  · rintro ⟨hlength, hchars, htokens⟩
    have hall : ∀ c ∈ name.toList, isNameChar c = true := fun c hc =>
      isNameChar_iff.2 (hchars c hc)
    rw [upper_of_isNameChar hall]
    exact ⟨hlength, htokens, hall⟩
  · rintro ⟨hlength, htokens, hall⟩
    rw [upper_of_isNameChar hall] at htokens
    exact ⟨hlength, fun c hc => isNameChar_iff.1 (hall c hc), htokens⟩

namespace Intent

/-- A check accepts exactly the written forms of the values with a property. -/
structure Accepts {α : Type} (check : IntentField → Json → Except Rejection α) (write : α → Json)
    (valid : α → Prop) : Prop where
  /-- A value is returned exactly for its written form, and only if it has the property. -/
  ok_iff : ∀ {field value a}, check field value = .ok a ↔ value = write a ∧ valid a
  /-- No two values are written alike. -/
  injective : Function.Injective write

/-- Any string is accepted as a string. -/
theorem stringValue_accepts : Accepts stringValue .str fun _ => True where
  ok_iff {field value text} := by
    cases value <;> simp [stringValue, Json.text?]
  injective _ _ h := Json.str.inj h

/-- A whole number is read if it fits into 64 bits with a sign. -/
theorem intValue_eq_ok_iff {field : IntentField} {value : Json} {n : Int} :
    intValue field value = .ok n ↔ value = .int n ∧ (IntRange.signed 64).holds n = true := by
  unfold intValue intWithin?
  cases value with
  | int k =>
    simp only [Json.int?, Option.filter_some, Json.int.injEq]
    by_cases hk : (IntRange.signed 64).holds k = true
    · rw [if_pos hk]
      constructor
      · intro h
        obtain rfl := Except.ok.inj h
        exact ⟨rfl, hk⟩
      · rintro ⟨rfl, -⟩
        rfl
    · rw [if_neg hk]
      constructor
      · intro h
        cases h
      · rintro ⟨rfl, hn⟩
        exact absurd hn hk
  | _ => simp [Json.int?]

/-- A range within the numbers of 64 bits accepts the whole numbers between its bounds. -/
theorem intInRange_accepts {range : IntRange} (hlow : (IntRange.signed 64).low ≤ range.low)
    (hhigh : range.high ≤ (IntRange.signed 64).high) :
    Accepts (intInRange range) .int fun n => range.low ≤ n ∧ n ≤ range.high where
  ok_iff {field value n} := by
    simp only [intInRange, bind_eq_ok_iff, intValue_eq_ok_iff]
    constructor
    · rintro ⟨k, ⟨rfl, -⟩, h⟩
      split at h
      · rename_i hk
        obtain rfl := Except.ok.inj h
        exact ⟨rfl, IntRange.holds_iff.1 hk⟩
      · cases h
    · rintro ⟨rfl, hn⟩
      have hwide : (IntRange.signed 64).holds n = true :=
        IntRange.holds_iff.2 ⟨Int.le_trans hlow hn.1, Int.le_trans hn.2 hhigh⟩
      exact ⟨n, ⟨rfl, hwide⟩, if_pos (IntRange.holds_iff.2 hn)⟩
  injective _ _ h := Json.int.inj h

/-- A text that is looked up has to be a string with an entry. -/
theorem termValue_eq_ok_iff {α : Type} {ofText? : String → Option α} {field : IntentField}
    {value : Json} {a : α} :
    termValue ofText? field value = .ok a ↔ ∃ text, value = .str text ∧ ofText? text = some a := by
  simp only [termValue, bind_eq_ok_iff, stringValue_accepts.ok_iff, and_true]
  refine exists_congr fun text => and_congr_right fun _ => ?_
  cases ofText? text <;> simp

/-- A term is accepted under its name. -/
theorem termValue_accepts {α : Type} [Vocabulary α] :
    Accepts (termValue (Vocabulary.ofName? (α := α))) (fun a => .str (Vocabulary.name a))
      fun _ => True where
  ok_iff {field value a} := by
    simp only [termValue_eq_ok_iff, Vocabulary.ofName?_eq_some, and_true]
    constructor
    · rintro ⟨text, rfl, rfl⟩
      rfl
    · rintro rfl
      exact ⟨_, rfl, rfl⟩
  injective _ _ h := Vocabulary.name_injective (Json.str.inj h)

/-- A form of an answer is accepted under its name, the narrative also as a sentence. -/
theorem formatValue_eq_ok_iff {field : IntentField} {value : Json} {format : OutputFormat} :
    termValue OutputFormat.ofText? field value = .ok format ↔
      value = .str (Vocabulary.name format) ∨ (value = .str "sentence" ∧ format = .narrative) := by
  simp only [termValue_eq_ok_iff]
  constructor
  · rintro ⟨text, rfl, h⟩
    unfold OutputFormat.ofText? at h
    split at h
    · rename_i ht
      exact Or.inr ⟨congrArg Json.str ht, (Option.some.inj h).symm⟩
    · exact Or.inl (congrArg Json.str (Vocabulary.ofName?_eq_some.1 h).symm)
  · rintro (rfl | ⟨rfl, rfl⟩)
    · exact ⟨_, rfl, by cases format <;> decide⟩
    · exact ⟨_, rfl, by decide⟩

/-- A name is accepted if it is one of a player; the empty name stands for none. -/
theorem nameValue_eq_ok_iff {field : IntentField} {value : Json} {name? : Option String} :
    nameValue field value = .ok name? ↔
      (value = .str "" ∧ name? = none) ∨
        ∃ name, value = .str name ∧ name ≠ "" ∧ IsPlayerName name ∧ name? = some name := by
  simp only [nameValue, bind_eq_ok_iff, stringValue_accepts.ok_iff, and_true, isPlayerName_iff]
  constructor
  · rintro ⟨name, rfl, h⟩
    split at h
    · rename_i hempty
      exact Or.inl ⟨congrArg Json.str (String.isEmpty_iff.1 hempty), (Except.ok.inj h).symm⟩
    · rename_i hempty
      split at h
      · cases h
      · rename_i hlength
        split at h
        · cases h
        · rename_i htoken
          split at h
          · rename_i hall
            refine Or.inr ⟨name, rfl, fun he => hempty (String.isEmpty_iff.2 he), ?_,
              (Except.ok.inj h).symm⟩
            exact ⟨Nat.le_of_not_lt hlength, htoken, hall⟩
          · cases h
  · rintro (⟨rfl, rfl⟩ | ⟨name, rfl, hne, ⟨hlength, htoken, hall⟩, rfl⟩)
    · exact ⟨"", rfl, rfl⟩
    · refine ⟨name, rfl, ?_⟩
      rw [if_neg (fun he => hne (String.isEmpty_iff.1 he)), if_neg (Nat.not_lt.2 hlength), htoken]
      exact if_pos hall

/-- A type of pitch is accepted by its name. -/
theorem pitchValue_accepts : Accepts pitchValue .str IsPitchName where
  ok_iff {field value name} := by
    simp only [pitchValue, bind_eq_ok_iff, stringValue_accepts.ok_iff, and_true]
    constructor
    · rintro ⟨text, rfl, h⟩
      split at h
      · cases h
      · rename_i hbad
        obtain rfl := Except.ok.inj h
        simp only [Bool.or_eq_true, not_or, Bool.not_eq_true, Bool.not_eq_false',
          decide_eq_false_iff_not, List.all_eq_true, isPitchChar_iff] at hbad
        obtain ⟨⟨hempty, hlength⟩, hchars⟩ := hbad
        have hpos : text.length ≠ 0 := fun he => by
          rw [String.length_eq_zero_iff.1 he] at hempty
          cases hempty
        exact ⟨rfl, Nat.one_le_iff_ne_zero.2 hpos, Nat.le_of_not_lt hlength, hchars⟩
    · rintro ⟨rfl, hpos, hlength, hchars⟩
      refine ⟨name, rfl, if_neg ?_⟩
      have hempty : name.isEmpty = false := by
        rw [Bool.eq_false_iff]
        intro he
        rw [String.isEmpty_iff.1 he] at hpos
        exact absurd hpos (by decide)
      have hall : name.toList.all isPitchChar = true :=
        List.all_eq_true.2 fun c hc => isPitchChar_iff.2 (hchars c hc)
      have hshort : ¬ maxPitchNameLength < name.length := Nat.not_lt.2 hlength
      simp [hempty, hall, hshort]
  injective _ _ h := Json.str.inj h

section lists

variable {α : Type} {check : IntentField → Json → Except Rejection α} {write : α → Json}
  {valid : α → Prop} {field : IntentField}

/-- Items are accepted together if each of them is. -/
theorem Accepts.mapM_eq_ok_iff (h : Accepts check write valid) {items : List Json} {as : List α} :
    items.mapM (check field) = .ok as ↔ items = as.map write ∧ ∀ a ∈ as, valid a :=
  mapM_eq_ok_iff_map h.ok_iff

/-- A list, or a single value, is accepted if each item is; repetitions are dropped. -/
theorem Accepts.distinctItems_eq_ok_iff [BEq α] (h : Accepts check write valid) {value : Json}
    {as : List α} :
    distinctItems check field value = .ok as ↔
      ∃ listed : List α, itemsOrOne value = listed.map write ∧ (∀ a ∈ listed, valid a) ∧
        listed.eraseDups = as := by
  simp only [distinctItems, map_eq_ok_iff, h.mapM_eq_ok_iff, and_assoc]

/-- A key is found if it is known. -/
theorem metricKey_eq_ok_iff {c : Catalogue} {metric key : String} :
    metricKey c field metric = .ok key ↔ metric = key ∧ c.knowsMetric key = true := by
  unfold metricKey
  split
  · rename_i hknown
    rw [Except.ok.injEq]
    exact ⟨fun he => ⟨he, he ▸ hknown⟩, fun h => h.1⟩
  · rename_i hunknown
    exact ⟨nofun, fun ⟨he, hknown⟩ => absurd (he ▸ hknown) hunknown⟩

/-- Keys are looked up one by one, and each has to be known. -/
theorem mapM_metricKey_eq_ok_iff {c : Catalogue} {metrics found : List String} :
    metrics.mapM (metricKey c field) = .ok found ↔
      metrics = found ∧ ∀ metric ∈ metrics, c.knowsMetric metric = true := by
  have hmap := @mapM_eq_ok_iff_map _ _ _ (metricKey c field) id _ metricKey_eq_ok_iff metrics found
  rw [hmap, List.map_id]
  exact and_congr_right fun he => by rw [he]

/-- A list of metrics is accepted if it may be asked for. -/
theorem metricsValue_accepts {c : Catalogue} :
    Accepts (metricsValue c) Json.strings c.IsMetricList where
  ok_iff {field value metrics} := by
    cases value with
    | arr items =>
      simp only [metricsValue, Json.items?, bind_eq_ok_iff, stringValue_accepts.mapM_eq_ok_iff,
        implies_true, and_true, Json.strings, Json.arr.injEq, Catalogue.IsMetricList]
      constructor
      · rintro ⟨texts, rfl, h⟩
        split at h
        · rename_i hmain
          obtain rfl := Except.ok.inj h
          exact ⟨rfl, Or.inl hmain⟩
        · obtain ⟨rfl, hall⟩ := mapM_metricKey_eq_ok_iff.1 h
          exact ⟨rfl, Or.inr hall⟩
      · rintro ⟨rfl, hlist⟩
        refine ⟨metrics, rfl, ?_⟩
        split
        · rfl
        · rename_i hmain
          exact mapM_metricKey_eq_ok_iff.2 ⟨rfl, hlist.resolve_left hmain⟩
    | _ => simp [metricsValue, Json.items?, Json.strings]
  injective _ _ h := List.map_injective_iff.2 (fun _ _ => Json.str.inj) (Json.arr.inj h)

/-- A key to sort by is accepted if it is known. -/
theorem keyValue_accepts {c : Catalogue} :
    Accepts (fun field value => stringValue field value >>= metricKey c field) .str
      fun metric => c.knowsMetric metric = true where
  ok_iff {field value metric} := by
    simp only [bind_eq_ok_iff, stringValue_accepts.ok_iff, and_true, metricKey_eq_ok_iff]
    constructor
    · rintro ⟨_, rfl, rfl, hknown⟩
      exact ⟨rfl, hknown⟩
    · rintro ⟨rfl, hknown⟩
      exact ⟨metric, rfl, rfl, hknown⟩
  injective _ _ h := Json.str.inj h

end lists

end Intent

end Scorebook
