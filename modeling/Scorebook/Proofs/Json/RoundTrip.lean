import Mathlib.Data.List.TakeDrop
import Scorebook.Json.Printer
import Scorebook.Json.Reader
import Scorebook.Proofs.Lookup

/-!
# Reading back what was written

The reader is a left inverse of the compact printer on strings, whole numbers and lists of them.
Each printer is read back in front of any text that may stand behind a value, so the laws of the
parts make up those of lists and of objects. Main statement: the compact form of an object with such
values is read as that object, with its fields sorted.
-/

namespace Scorebook.Json

/-- The texts that may stand behind a value: none, or one that starts by ending the value. -/
inductive EndsValue : List Char → Prop
  /-- The value is the last of the text. -/
  | nil : EndsValue []
  /-- Another item or field follows. -/
  | comma (rest : List Char) : EndsValue (',' :: rest)
  /-- The list ends. -/
  | bracket (rest : List Char) : EndsValue (']' :: rest)
  /-- The object ends. -/
  | brace (rest : List Char) : EndsValue ('}' :: rest)

/-- A text starts with a character that is no blank and ends no list or object. -/
def Opens (text : List Char) : Prop :=
  ∃ c rest, text = c :: rest ∧ c ∉ [' ', '\n', '\t', '\r', ']', '}']

/-- A text keeps its start when more is put behind it. -/
theorem Opens.append {text : List Char} (h : Opens text) (rest : List Char) :
    Opens (text ++ rest) := by
  obtain ⟨c, tail, rfl, hc⟩ := h
  exact ⟨c, tail ++ rest, rfl, hc⟩

/-- Items between commas start with the first one. -/
theorem Opens.intercalate {first : List Char} (h : Opens first) (others : List (List Char)) :
    Opens ([','].intercalate (first :: others)) := by
  cases others with
  | nil => rwa [List.intercalate_singleton]
  | cons second others =>
    rw [List.intercalate_cons_cons, List.append_assoc]
    exact h.append _

/-- The decimal digits of a number, the first one first. -/
def decimals (n : Nat) : List Nat := (Nat.toDigits 10 n).map fun c => c.toNat - '0'.toNat

/-- A number below ten is its only digit. -/
theorem decimals_of_lt {n : Nat} (h : n < 10) : decimals n = [n] := by
  rw [decimals, Nat.toDigits_of_lt_base h, List.map_singleton, Nat.toNat_digitChar_of_lt_ten h]
  exact congrArg (fun d => [d]) (Nat.add_sub_cancel_left 48 n)

/-- Any other number has one digit more than its tenth. -/
theorem decimals_of_le {n : Nat} (h : 10 ≤ n) : decimals n = decimals (n / 10) ++ [n % 10] := by
  have hlt : n % 10 < 10 := Nat.mod_lt n (by decide)
  rw [decimals, Nat.toDigits_of_base_le (by decide) h, List.map_append, List.map_singleton,
    Nat.toNat_digitChar_of_lt_ten hlt]
  exact congrArg (fun d => decimals (n / 10) ++ [d]) (Nat.add_sub_cancel_left 48 (n % 10))

/-- The digits of a number add up to it. -/
theorem appendDigits_decimals (n : Nat) : Literal.appendDigits 0 (decimals n) = n := by
  induction n using Nat.strongRecOn with
  | ind n ih =>
    by_cases h : n < 10
    · rw [decimals_of_lt h]
      exact Nat.zero_add n
    · have hle : 10 ≤ n := Nat.le_of_not_lt h
      have htenth := ih (n / 10) (by omega)
      rw [Literal.appendDigits] at htenth
      rw [decimals_of_le hle, Literal.appendDigits, List.foldl_append, htenth]
      exact Nat.div_add_mod' n 10

/-- A positive number does not start with a zero. -/
theorem decimals_eq_cons {n : Nat} (h : 0 < n) : ∃ d ds, decimals n = (d + 1) :: ds := by
  induction n using Nat.strongRecOn with
  | ind n ih =>
    by_cases hlt : n < 10
    · exact ⟨n - 1, [], by rw [decimals_of_lt hlt, Nat.sub_add_cancel h]⟩
    · have hle : 10 ≤ n := Nat.le_of_not_lt hlt
      obtain ⟨d, ds, hds⟩ := ih (n / 10) (by omega) (by omega)
      exact ⟨d, ds ++ [n % 10], by rw [decimals_of_le hle, hds, List.cons_append]⟩

namespace Reader

/-- The digits of a number are the longest run of digits in front of the end of a value. -/
theorem digitRun_toDigits (n : Nat) {rest : List Char} (h : EndsValue rest) :
    digitRun (Nat.toDigits 10 n ++ rest) = (decimals n, rest) := by
  have hdigit : ∀ c ∈ Nat.toDigits 10 n, (decide ('0' ≤ c) && decide (c ≤ '9')) = true :=
    fun c hc => Nat.isDigit_of_mem_toDigits (by decide) (by decide) hc
  have hrest : rest.takeWhile (fun c => decide ('0' ≤ c) && decide (c ≤ '9')) = [] ∧
      rest.dropWhile (fun c => decide ('0' ≤ c) && decide (c ≤ '9')) = rest := by
    cases h <;> exact ⟨rfl, rfl⟩
  rw [digitRun, List.span_eq_takeWhile_dropWhile, List.takeWhile_append_of_pos hdigit,
    List.dropWhile_append_of_pos hdigit, hrest.1, hrest.2, List.append_nil]
  rfl

/-- No fraction starts at the end of a value. -/
theorem fraction_of_endsValue {rest : List Char} (h : EndsValue rest) :
    fraction rest = some (none, rest) := by
  cases h <;> rfl

/-- No exponent starts at the end of a value. -/
theorem exponent_of_endsValue {rest : List Char} (h : EndsValue rest) :
    exponent rest = some (none, rest) := by
  cases h <;> rfl

/-- The literal with the digits and the sign of a whole number has that value. -/
theorem value?_decimals {n : Int} (h : Literal.wholeRange.holds n = true) :
    (Literal.mk (decide (n < 0)) (decimals n.natAbs) none none).value? = some (.int n) := by
  have hsign : (if decide (n < 0) = true then -(n.natAbs : Int) else n.natAbs) = n := by
    simp only [decide_eq_true_eq]
    omega
  have hzero : (decide (n < 0) && n == 0) = false := by
    simp only [Bool.and_eq_false_iff, decide_eq_false_iff_not, beq_eq_false_iff_ne]
    omega
  simp only [Literal.value?, appendDigits_decimals, hsign, hzero, h]
  rfl

/-- A whole number in decimal is read behind its sign. -/
theorem number_toDigits {n : Int} {rest : List Char} (h : Literal.wholeRange.holds n = true)
    (hrest : EndsValue rest) :
    number (decide (n < 0)) (Nat.toDigits 10 n.natAbs ++ rest) = some (.int n, rest) := by
  have hvalue := value?_decimals h
  -- A zero in front of other digits would be refused: zero is its only digit, and any other number
  -- starts with another one.
  rcases Nat.eq_zero_or_pos n.natAbs with hzero | hpos
  · rw [hzero, decimals_of_lt (by decide)] at hvalue
    rw [number, digitRun_toDigits _ hrest, hzero, decimals_of_lt (by decide)]
    simp only [fraction_of_endsValue hrest, exponent_of_endsValue hrest, hvalue, Option.map_some]
  · obtain ⟨d, ds, hds⟩ := decimals_eq_cons hpos
    rw [hds] at hvalue
    rw [number, digitRun_toDigits _ hrest, hds]
    simp only [fraction_of_endsValue hrest, exponent_of_endsValue hrest, hvalue, Option.map_some]

/-! ## Strings -/

/-- The escape of a control character gives back its code. -/
theorem hexUnit?_unitEscape :
    ∀ n < 0x20, hexUnit? '0' '0' (Nat.digitChar (n / 16)) (Nat.digitChar (n % 16)) = some n := by
  decide

/-- A character that is written as itself is read as itself. -/
theorem stringChars_cons {c : Char} (hquote : c ≠ '"') (hslash : c ≠ '\\')
    (hcontrol : ¬ c.toNat < 0x20) (rest : List Char) :
    stringChars (c :: rest) = withChar c (stringChars rest) := by
  rw [stringChars.eq_def]
  simp [hslash, hcontrol]

/-- A control character is read back from its escape. -/
theorem stringChars_unitEscape {c : Char} (hcontrol : c.toNat < 0x20) (rest : List Char) :
    stringChars (unitEscape c ++ rest) = withChar c (stringChars rest) := by
  have hlead : isLeading c.toNat = false := by
    have hlow : ¬ 0xD800 ≤ c.toNat := by omega
    simp [isLeading, hlow]
  have htrail : isTrailing c.toNat = false := by
    have hlow : ¬ 0xDC00 ≤ c.toNat := by omega
    simp [isTrailing, hlow]
  simp only [unitEscape, List.cons_append, List.nil_append]
  rw [stringChars, hexUnit?_unitEscape c.toNat hcontrol]
  simp only [hlead, htrail, Bool.false_eq_true, if_false, Char.ofNat_toNat]

/-- A character inside a string is read back, however it is written. -/
theorem stringChars_charText (c : Char) (rest : List Char) :
    stringChars (charText c ++ rest) = withChar c (stringChars rest) := by
  unfold charText
  split_ifs with hquote hslash _ _ _ _ _ hcontrol
  any_goals (subst c; rfl)
  · exact stringChars_unitEscape hcontrol rest
  · exact stringChars_cons hquote hslash hcontrol rest

/-- The characters of a string are read up to its closing quote. -/
theorem stringChars_flatMap (cs rest : List Char) :
    stringChars (cs.flatMap charText ++ '"' :: rest) = some (cs, rest) := by
  induction cs with
  | nil => rfl
  | cons c cs ih =>
    rw [List.flatMap_cons, List.append_assoc, stringChars_charText, ih]
    rfl

/-- Nothing is skipped in front of a character that is no blank. -/
theorem skip_cons {c : Char} (h : c ∉ [' ', '\n', '\t', '\r']) (rest : List Char) :
    skip (c :: rest) = c :: rest := by
  simp only [List.mem_cons, List.not_mem_nil, or_false, not_or] at h
  obtain ⟨hblank, hline, htab, hreturn⟩ := h
  simp [skip, hblank, hline, htab, hreturn]

/-- Nothing is skipped in front of an item. -/
theorem skip_of_opens {text : List Char} (h : Opens text) (rest : List Char) :
    skip (text ++ rest) = text ++ rest := by
  obtain ⟨c, tail, rfl, hc⟩ := h
  refine skip_cons (fun hblank => hc ?_) (tail ++ rest)
  exact List.mem_append_left [']', '}'] hblank

/-- A reader of items recovers a value from its text, whatever ends the value. -/
structure Recovers {α : Type} (item : List Char → Read α) (text : List Char) (a : α) :
    Prop where
  /-- The text is neither blank nor the end of a list at its start. -/
  opens : Opens text
  /-- It is read as the value, and what stands behind it is left. -/
  reads : ∀ rest, EndsValue rest → item (text ++ rest) = some (a, rest)

section

variable {α : Type} {item : List Char → Read α} {text : α → List Char} {close : Char}

/-- Texts of items with commas between them are read as the items, up to the closing bracket. -/
theorem items_intercalate (hclose : close = ']' ∨ close = '}') (x : α) (xs : List α)
    (h : ∀ y ∈ x :: xs, Recovers item (text y) y) (rest : List Char) :
    items close item ([','].intercalate ((x :: xs).map text) ++ close :: rest) =
      some (x :: xs, rest) := by
  have hblank : close ∉ [' ', '\n', '\t', '\r'] ∧ close ≠ ',' := by
    rcases hclose with rfl | rfl <;> decide
  have hends : EndsValue (close :: rest) := by
    rcases hclose with rfl | rfl
    · exact .bracket rest
    · exact .brace rest
  induction xs generalizing x with
  | nil =>
    have hx := (h x List.mem_cons_self).reads _ hends
    rw [List.map_singleton, List.intercalate_singleton, items, hx]
    simp only [skip_cons hblank.1, if_true]
  | cons y xs ih =>
    have hx := (h x List.mem_cons_self).reads
      (',' :: ([','].intercalate ((y :: xs).map text) ++ close :: rest)) (.comma _)
    have hrest := ih y fun z hz => h z (List.mem_cons_of_mem x hz)
    have htext : [','].intercalate ((x :: y :: xs).map text) ++ close :: rest =
        text x ++ ',' :: ([','].intercalate ((y :: xs).map text) ++ close :: rest) := by
      simp [List.intercalate_cons_cons]
    rw [htext, items, hx]
    simp only [skip_cons (c := ',') (by decide), if_neg hblank.2.symm, if_true]
    rw [if_pos (by simp; omega), hrest]
    rfl

/-- The same between brackets, where there may be no item at all. -/
theorem enclosed_intercalate (hclose : close = ']' ∨ close = '}') (xs : List α)
    (h : ∀ y ∈ xs, Recovers item (text y) y) (rest : List Char) :
    enclosed close item ([','].intercalate (xs.map text) ++ close :: rest) = some (xs, rest) := by
  cases xs with
  | nil =>
    have hblank : close ∉ [' ', '\n', '\t', '\r'] := by
      rcases hclose with rfl | rfl <;> decide
    rw [List.map_nil, List.intercalate_nil, List.nil_append, enclosed, skip_cons hblank]
    exact if_pos rfl
  | cons x xs =>
    have hopens : Opens ([','].intercalate ((x :: xs).map text)) :=
      (h x List.mem_cons_self).opens.intercalate _
    have hitems := items_intercalate hclose x xs h rest
    rw [enclosed, skip_of_opens hopens]
    obtain ⟨c, tail, htext, hc⟩ := hopens
    rw [htext] at hitems ⊢
    have hne : c ≠ close := by
      rintro rfl
      refine hc ?_
      rcases hclose with rfl | rfl <;> decide
    exact (if_neg hne).trans hitems

end

/-! ## Values -/

/-- A text that opens no list or object is a scalar at every depth. -/
theorem value_eq_scalar {c : Char} (hblank : c ∉ [' ', '\n', '\t', '\r']) (hlist : c ≠ '[')
    (hobject : c ≠ '{') (depth : Nat) (rest : List Char) :
    value depth (c :: rest) = scalar (c :: rest) := by
  cases depth with
  | zero => rw [value, skip_cons hblank]
  | succ depth =>
    rw [value, skip_cons hblank]
    simp [hlist, hobject]

/-- A string is read back from its text in quotes. -/
theorem recovers_str (depth : Nat) (s : String) :
    Recovers (value depth) (stringText s) (.str s) where
  opens := ⟨'"', _, rfl, by decide⟩
  reads rest _ := by
    rw [stringText, List.append_assoc, List.cons_append,
      value_eq_scalar (by decide) (by decide) (by decide), scalar, List.singleton_append,
      stringChars_flatMap]
    exact congrArg (fun text => some (str text, rest)) String.ofList_toList

/-- A digit is none of the characters that are no digits. -/
theorem digit_not_mem {c : Char} (h : c.isDigit = true) {others : List Char}
    (hothers : others.any Char.isDigit = false) : c ∉ others :=
  fun hc => List.any_eq_false.1 hothers c hc h

/-- What starts with a digit is a number without a sign. -/
theorem scalar_of_isDigit {c : Char} (h : c.isDigit = true) (rest : List Char) :
    scalar (c :: rest) = number false (c :: rest) := by
  have hother : c ∉ ['n', 't', 'f', '"', '-'] := digit_not_mem h rfl
  simp only [List.mem_cons, List.not_mem_nil, or_false, not_or] at hother
  obtain ⟨hn, ht, hf, hquote, hminus⟩ := hother
  rw [scalar.eq_def]
  simp [hn, ht, hf, hquote, hminus]

/-- A whole number is read back from its digits and its sign. -/
theorem recovers_int (depth : Nat) {n : Int} (h : Literal.wholeRange.holds n = true) :
    Recovers (value depth) (intText n) (.int n) := by
  have hnumber : ∀ rest, EndsValue rest →
      number (decide (n < 0)) (Nat.toDigits 10 n.natAbs ++ rest) = some (.int n, rest) :=
    fun rest hrest => number_toDigits h hrest
  by_cases hneg : n < 0
  · rw [decide_eq_true hneg] at hnumber
    rw [intText, if_pos hneg]
    refine ⟨⟨'-', _, rfl, by decide⟩, fun rest hrest => ?_⟩
    rw [List.cons_append, value_eq_scalar (by decide) (by decide) (by decide), scalar]
    exact hnumber rest hrest
  · rw [decide_eq_false hneg] at hnumber
    rw [intText, if_neg hneg]
    cases hdigits : Nat.toDigits 10 n.natAbs with
    | nil => exact absurd hdigits Nat.toDigits_ne_nil
    | cons c digits =>
      have hdigit : c.isDigit = true :=
        Nat.isDigit_of_mem_toDigits (by decide) (by decide) (hdigits ▸ List.mem_cons_self)
      rw [hdigits] at hnumber
      refine ⟨⟨c, digits, rfl, digit_not_mem hdigit rfl⟩, fun rest hrest => ?_⟩
      have hblank : c ∉ [' ', '\n', '\t', '\r'] := digit_not_mem hdigit rfl
      have hopening : c ∉ ['[', '{'] := digit_not_mem hdigit rfl
      have hlist : c ≠ '[' := List.ne_of_not_mem_cons hopening
      have hobject : c ≠ '{' := List.ne_of_not_mem_cons (List.not_mem_of_not_mem_cons hopening)
      rw [List.cons_append, value_eq_scalar hblank hlist hobject, scalar_of_isDigit hdigit]
      exact hnumber rest hrest

end Reader

/-! ## Lists and objects -/

/-- The items of a list stand between commas. -/
theorem itemsChars_eq (items : List Json) :
    itemsChars items = [','].intercalate (items.map chars) := by
  induction items with
  | nil => rfl
  | cons first items ih =>
    cases items with
    | nil => rw [itemsChars, List.map_singleton, List.intercalate_singleton]
    | cons second items =>
      rw [itemsChars, ih]
      simp only [List.map_cons, List.intercalate_cons_cons, List.append_assoc,
        List.singleton_append]

/-- A field as it is written. -/
def fieldText (field : String × Json) : List Char := stringText field.1 ++ ':' :: chars field.2

/-- The fields of an object stand between commas. -/
theorem fieldsChars_eq (fields : List (String × Json)) :
    fieldsChars fields = [','].intercalate (fields.map fieldText) := by
  induction fields with
  | nil => rfl
  | cons first fields ih =>
    obtain ⟨key, value⟩ := first
    cases fields with
    | nil =>
      rw [fieldsChars, List.map_singleton, List.intercalate_singleton]
      rfl
    | cons second fields =>
      rw [fieldsChars, ih]
      simp only [List.map_cons, List.intercalate_cons_cons, List.append_assoc, List.cons_append,
        List.nil_append, fieldText]

/-- A value that its text determines: strings, whole numbers that a literal may write, and lists of
such values, nested at most to a depth. -/
inductive Plain : (depth : Nat) → Json → Prop
  /-- Any string. -/
  | str (depth : Nat) (s : String) : Plain depth (.str s)
  /-- A whole number within the range of literals. -/
  | int (depth : Nat) {n : Int} (h : Literal.wholeRange.holds n = true) : Plain depth (.int n)
  /-- A list of such values. -/
  | arr {depth : Nat} {items : List Json} (h : ∀ x ∈ items, Plain depth x) :
    Plain (depth + 1) (.arr items)

namespace Reader

/-- A plain value is read back from its compact form. -/
theorem recovers_chars {depth : Nat} {x : Json} (h : Plain depth x) :
    Recovers (value depth) x.chars x := by
  induction h with
  | str depth s =>
    rw [chars]
    exact recovers_str depth s
  | int depth h =>
    rw [chars]
    exact recovers_int depth h
  | @arr depth items h ih =>
    refine ⟨⟨'[', _, by rw [chars]; rfl, by decide⟩, fun rest hrest => ?_⟩
    have hitems : enclosed ']' (value depth)
        ([','].intercalate (items.map chars) ++ ']' :: rest) = some (items, rest) :=
      enclosed_intercalate (.inl rfl) items ih rest
    have htext : (Json.arr items).chars ++ rest =
        '[' :: ([','].intercalate (items.map chars) ++ ']' :: rest) := by
      simp only [chars, itemsChars_eq, List.cons_append, List.append_assoc, List.nil_append]
    rw [htext, value, skip_cons (by decide)]
    simp only [hitems, Option.map_some]

/-- A field is read back if its value is. -/
theorem recovers_field {depth : Nat} {key : String} {x : Json}
    (h : Recovers (value depth) x.chars x) :
    Recovers (field (value depth)) (fieldText (key, x)) (key, x) where
  opens := ⟨'"', _, rfl, by decide⟩
  reads rest hrest := by
    have htext : fieldText (key, x) ++ rest =
        '"' :: (key.toList.flatMap charText ++ '"' :: ':' :: (x.chars ++ rest)) := by
      simp only [fieldText, stringText, List.cons_append, List.append_assoc, List.nil_append]
    rw [htext, field, skip_cons (by decide)]
    simp only [stringChars_flatMap, skip_cons (c := ':') (by decide)]
    rw [h.reads rest hrest]
    exact congrArg (fun key => some ((key, x), rest)) String.ofList_toList

/-- An object whose values are read back is read with its fields sorted. -/
theorem value_obj {depth : Nat} {fields : List (String × Json)}
    (h : ∀ f ∈ fields, Recovers (value depth) f.2.chars f.2) (rest : List Char) :
    value (depth + 1) ((Json.obj fields).chars ++ rest) = some (object fields, rest) := by
  have hfields : enclosed '}' (field (value depth))
      ([','].intercalate (fields.map fieldText) ++ '}' :: rest) = some (fields, rest) :=
    enclosed_intercalate (.inr rfl) fields (fun f hf => recovers_field (h f hf)) rest
  have htext : (Json.obj fields).chars ++ rest =
      '{' :: ([','].intercalate (fields.map fieldText) ++ '}' :: rest) := by
    simp only [chars, fieldsChars_eq, List.cons_append, List.append_assoc, List.nil_append]
  rw [htext, value, skip_cons (by decide)]
  simp only [hfields, Option.map_some]

end Reader

/-- The compact form of an object whose values are read back is read as that object, sorted by
key. -/
theorem parse?_compact_obj {fields : List (String × Json)}
    (h : ∀ f ∈ fields, Reader.Recovers (Reader.value (nestingLimit - 1)) f.2.chars f.2) :
    parse? (Json.obj fields).compact = some (object fields) := by
  have hvalue : Reader.value nestingLimit ((Json.obj fields).chars ++ []) =
      some (object fields, []) :=
    Reader.value_obj h []
  rw [List.append_nil] at hvalue
  rw [parse?, compact, String.toList_ofList, hvalue]
  rfl

/-- Plain values are read back, so an object with plain values is read as that object, sorted by
key. -/
theorem parse?_compact {fields : List (String × Json)}
    (h : ∀ f ∈ fields, Plain (nestingLimit - 1) f.2) :
    parse? (Json.obj fields).compact = some (object fields) :=
  parse?_compact_obj fun f hf => Reader.recovers_chars (h f hf)

/-- What is found under a key after fields with distinct keys have been put in. -/
theorem lookup_foldl_insertEntry {fields : List (String × Json)}
    (h : (fields.map Prod.fst).Nodup) (sorted : List (String × Json)) (key : String) :
    (fields.foldl (fun sorted field => insertEntry field.1 field.2 sorted) sorted).lookup key =
      (fields.lookup key).or (sorted.lookup key) := by
  induction fields generalizing sorted with
  | nil => rfl
  | cons field fields ih =>
    obtain ⟨k, x⟩ := field
    obtain ⟨hk, hrest⟩ := List.nodup_cons.1 h
    rw [List.foldl_cons, ih hrest, lookup_insertEntry, lookup_cons_eq]
    by_cases he : key = k
    · subst he
      have hnone : fields.lookup key = none := by
        rw [List.lookup_eq_none_iff]
        intro p hp
        have hmem : p.1 ∈ fields.map Prod.fst := List.mem_map_of_mem hp
        have hne : key ≠ p.1 := fun hp => hk (hp ▸ hmem)
        exact bne_iff_ne.2 hne
      rw [hnone, if_pos rfl, if_pos rfl]
      rfl
    · rw [if_neg he, if_neg he]

/-- Sorting fields puts them into a dictionary. -/
theorem object_eq_obj_entries (fields : List (String × Json)) :
    object fields = .obj (Dict.ofList fields).entries := by
  have hfold : (Dict.ofList fields).entries =
      fields.foldl (fun sorted field => insertEntry field.1 field.2 sorted) [] :=
    (List.foldl_hom Dict.entries fun _ _ => rfl).symm
  rw [object, hfold]

/-- Fields with ascending keys are sorted already. -/
theorem object_of_ascending {fields : List (String × Json)} (h : Ascending fields) :
    object fields = .obj fields := by
  rw [object_eq_obj_entries, Dict.entries_ofList h]

/-- Such an object is read back as it is, if its values are. -/
theorem Reader.recovers_obj {depth : Nat} {fields : List (String × Json)} (hkeys : Ascending fields)
    (h : ∀ f ∈ fields, Recovers (value depth) f.2.chars f.2) :
    Recovers (value (depth + 1)) (Json.obj fields).chars (.obj fields) where
  opens := ⟨'{', _, by rw [chars]; rfl, by decide⟩
  reads rest _ := by rw [value_obj h, object_of_ascending hkeys]

/-- Sorting leaves the value under each key, if no key is repeated. -/
theorem object_eq_obj {fields : List (String × Json)} (h : (fields.map Prod.fst).Nodup) :
    ∃ sorted, object fields = .obj sorted ∧ ∀ key, sorted.lookup key = fields.lookup key := by
  refine ⟨_, rfl, fun key => ?_⟩
  rw [lookup_foldl_insertEntry h]
  exact Option.or_none

end Scorebook.Json
