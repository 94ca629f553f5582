import Scorebook.Text.Case

/-!
# Words in a text whose case is lowered

Words of the basic Latin block are looked for in the lower-case form of a text. Of this form only as
much is fixed as such words need: a basic Latin character has its own small letter, the Kelvin sign
and the dotted capital I have forms that start with a basic Latin letter, and any other character
has some form without one, which may be longer than the character and may depend on what stands
around it, as that of the capital sigma does. Main statement: all lower-case forms of a text hold
the same words.
-/

namespace Scorebook.Text

/-- All characters are basic Latin. -/
def IsLatin (cs : List Char) : Prop := ∀ c ∈ cs, c.toNat < 0x80

instance (cs : List Char) : Decidable (IsLatin cs) :=
  List.decidableBAll (fun c : Char => c.toNat < 0x80) cs

/-- There are characters, and none is basic Latin. -/
structure IsForeign (cs : List Char) : Prop where
  /-- There is a character. -/
  ne_nil : cs ≠ []
  /-- Each lies behind the basic Latin block. -/
  le : ∀ c ∈ cs, 0x80 ≤ c.toNat

/-- The lower-case forms that a character may have. -/
inductive LowersTo : Char → List Char → Prop
  /-- A basic Latin character has its small letter, or itself. -/
  | latin {c : Char} (hc : c.toNat < 0x80) : LowersTo c [c.toLower]
  /-- The Kelvin sign has the letter k. -/
  | kelvin : LowersTo '\u212A' ['k']
  /-- The dotted capital I has the letter i with a combining dot. -/
  | dottedI : LowersTo '\u0130' ['i', '\u0307']
  /-- Any other character has some characters behind the basic Latin block, at least one. -/
  | foreign {c : Char} {form : List Char} (hc : 0x80 ≤ c.toNat) (hkelvin : c ≠ '\u212A')
    (hdotted : c ≠ '\u0130') (hform : IsForeign form) : LowersTo c form

/-- A text is lowered character by character, each to some form. -/
inductive Lowering : List Char → List Char → Prop
  /-- Nothing is left. -/
  | nil : Lowering [] []
  /-- The first character is lowered, and then the others. -/
  | cons {c : Char} {form cs rest : List Char} (hform : LowersTo c form)
    (hrest : Lowering cs rest) : Lowering (c :: cs) (form ++ rest)

variable {c : Char} {a b cs form front front' text word : List Char}

/-- Only basic Latin characters have a small letter of their own block. -/
theorem toLower_of_le (h : 0x80 ≤ c.toNat) : c.toLower = c := by
  have hcapital : ¬(c.val ≥ 'A'.val ∧ c.val ≤ 'Z'.val) := by
    rw [ge_iff_le, UInt32.le_iff_toNat_le, UInt32.le_iff_toNat_le]
    change ¬(65 ≤ c.toNat ∧ c.toNat ≤ 90)
    omega
  exact dif_neg hcapital

/-- A single character behind the basic Latin block. -/
theorem isForeign_singleton (h : 0x80 ≤ c.toNat) : IsForeign [c] where
  ne_nil := List.cons_ne_nil c []
  le := by
    intro d hd
    obtain rfl := List.mem_singleton.1 hd
    exact h

/-- Each character has the lower-case form that is computed. -/
theorem lowersTo_lowerChar (c : Char) : LowersTo c (lowerChar c) := by
  rw [lowerChar]
  split
  · rename_i hkelvin
    exact hkelvin ▸ .kelvin
  split
  · rename_i hdotted
    exact hdotted ▸ .dottedI
  rename_i hkelvin hdotted
  by_cases hc : c.toNat < 0x80
  · exact .latin hc
  · have hle : 0x80 ≤ c.toNat := Nat.le_of_not_lt hc
    rw [toLower_of_le hle]
    exact .foreign hle hkelvin hdotted (isForeign_singleton hle)

/-- A lower-case form is the one that is computed, or neither has a basic Latin character. -/
theorem LowersTo.eq_or_isForeign (h : LowersTo c form) :
    form = lowerChar c ∨ IsForeign form ∧ IsForeign (lowerChar c) := by
  cases h with
  | latin hc =>
    left
    have hkelvin : c ≠ '\u212A' := by
      rintro rfl
      exact absurd hc (by decide)
    have hdotted : c ≠ '\u0130' := by
      rintro rfl
      exact absurd hc (by decide)
    rw [lowerChar, if_neg hkelvin, if_neg hdotted]
  | kelvin => exact Or.inl rfl
  | dottedI => exact Or.inl rfl
  | foreign hc hkelvin hdotted hform =>
    right
    rw [lowerChar, if_neg hkelvin, if_neg hdotted, toLower_of_le hc]
    exact ⟨hform, isForeign_singleton hc⟩

/-- What is computed is a lower-case form. -/
theorem lowering_lower (cs : List Char) : Lowering cs (lower cs) := by
  induction cs with
  | nil => exact .nil
  | cons c cs ih => exact .cons (lowersTo_lowerChar c) ih

/-- A text is lowered part by part. -/
theorem Lowering.append {ds rest : List Char} (h : Lowering cs text) (hrest : Lowering ds rest) :
    Lowering (cs ++ ds) (text ++ rest) := by
  induction h with
  | nil => exact hrest
  | cons hform _ ih =>
    rw [List.append_assoc]
    exact .cons hform ih

/-- The case of basic Latin letters makes no difference to the lower-case form. -/
theorem lowerChar_toLower (c : Char) : lowerChar c.toLower = lowerChar c := by
  by_cases hc : 0x80 ≤ c.toNat
  · rw [toLower_of_le hc]
  · have hall : ∀ n < 0x80,
        lowerChar (Char.ofNat n).toLower = lowerChar (Char.ofNat n) := by
      decide
    rw [← Char.ofNat_toNat c]
    exact hall c.toNat (Nat.lt_of_not_le hc)

/-- So it makes none in a text. -/
theorem lower_map_toLower (cs : List Char) : lower (cs.map Char.toLower) = lower cs := by
  simp only [lower, List.flatMap_map, lowerChar_toLower]

/-- Two texts start with the same basic Latin words, and hold the same. -/
structure SameWords (a b : List Char) : Prop where
  /-- A word that one starts with, the other starts with. -/
  start : ∀ word, IsLatin word → (word <+: a ↔ word <+: b)
  /-- A word that one holds, the other holds. -/
  inside : ∀ word, IsLatin word → (word <:+: a ↔ word <:+: b)

/-- A text has the words of itself. -/
theorem SameWords.refl (a : List Char) : SameWords a a :=
  ⟨fun _ _ => Iff.rfl, fun _ _ => Iff.rfl⟩

/-- A character in front of both makes no difference. -/
theorem SameWords.cons (h : SameWords a b) (c : Char) : SameWords (c :: a) (c :: b) := by
  have hstart (word : List Char) (hword : IsLatin word) : word <+: c :: a ↔ word <+: c :: b := by
    cases word with
    | nil => simp only [List.nil_prefix]
    | cons d word =>
      rw [List.cons_prefix_cons, List.cons_prefix_cons,
        h.start word fun e he => hword e (List.mem_cons_of_mem d he)]
  refine ⟨hstart, fun word hword => ?_⟩
  rw [List.infix_cons_iff, List.infix_cons_iff, hstart word hword, h.inside word hword]

/-- Neither does a text. -/
theorem SameWords.append (h : SameWords a b) (front : List Char) :
    SameWords (front ++ a) (front ++ b) := by
  induction front with
  | nil => exact h
  | cons c front ih => exact ih.cons c

/-- A word does not start with a character unless it is its own first one. -/
theorem infix_cons_iff_of_head? (h : word.head? ≠ some c) : word <:+: c :: cs ↔ word <:+: cs := by
  rw [List.infix_cons_iff, or_iff_right_of_imp]
  intro hprefix
  cases word with
  | nil => exact List.nil_infix
  | cons d word =>
    obtain ⟨rfl, -⟩ := List.cons_prefix_cons.1 hprefix
    exact absurd rfl h

/-- The first character of a word is one of the word. -/
theorem head?_ne_of_notMem (h : c ∉ word) : word.head? ≠ some c :=
  fun hhead => h (List.mem_of_head? hhead)

/-- A character that a word does not have stands between the places where the word may be. -/
theorem infix_append_cons_iff (h : c ∉ word) :
    word <:+: front ++ c :: cs ↔ word <:+: front ∨ word <:+: cs := by
  rw [List.infix_append_iff, infix_cons_iff_of_head? (head?_ne_of_notMem h), ← or_assoc,
    or_iff_left_of_imp]
  rintro ⟨head, tail, rfl, hhead, htail⟩
  cases tail with
  | nil =>
    rw [List.append_nil]
    exact Or.inl hhead.isInfix
  | cons d tail =>
    obtain ⟨rfl, -⟩ := List.cons_prefix_cons.1 htail
    exact absurd (List.mem_append_right head List.mem_cons_self) h

/-- Basic Latin words have no character of a text without such characters. -/
theorem IsForeign.notMem (h : IsForeign front) (hword : IsLatin word) : ∀ d ∈ front, d ∉ word := by
  intro d hd hmem
  have hlow := hword d hmem
  have hhigh := h.le d hd
  omega

/-- No word but the empty one starts with characters behind the basic Latin block. -/
theorem IsForeign.prefix_append_iff (h : IsForeign front) (hword : IsLatin word) :
    word <+: front ++ cs ↔ word = [] := by
  obtain ⟨d, rest, rfl⟩ := List.exists_cons_of_ne_nil h.ne_nil
  cases word with
  | nil => simp only [List.nil_prefix]
  | cons e word =>
    refine ⟨fun hprefix => ?_, nofun⟩
    obtain ⟨rfl, -⟩ := List.cons_prefix_cons.1 hprefix
    exact absurd List.mem_cons_self (h.notMem hword e List.mem_cons_self)

/-- No word reaches into such characters. -/
theorem IsForeign.infix_append_iff (h : IsForeign front) (hword : IsLatin word) :
    word <:+: front ++ cs ↔ word <:+: cs := by
  have hnot := h.notMem hword
  clear h
  induction front with
  | nil => rfl
  | cons d front ih =>
    rw [List.cons_append, infix_cons_iff_of_head? (head?_ne_of_notMem (hnot d List.mem_cons_self))]
    exact ih fun e he => hnot e (List.mem_cons_of_mem d he)

/-- Different characters behind the basic Latin block in front of both make no difference. -/
theorem SameWords.append_foreign (h : SameWords a b) (hfront : IsForeign front)
    (hfront' : IsForeign front') : SameWords (front ++ a) (front' ++ b) where
  start word hword := by rw [hfront.prefix_append_iff hword, hfront'.prefix_append_iff hword]
  inside word hword := by
    rw [hfront.infix_append_iff hword, hfront'.infix_append_iff hword, h.inside word hword]

/-- All lower-case forms of a text have the same words as the one that is computed. -/
theorem Lowering.sameWords (h : Lowering cs text) : SameWords text (lower cs) := by
  induction h with
  | nil => exact .refl []
  | cons hform _ ih =>
    rw [lower, List.flatMap_cons]
    rcases hform.eq_or_isForeign with rfl | ⟨hforeign, hlower⟩
    · exact ih.append _
    · exact ih.append_foreign hforeign hlower

end Scorebook.Text
