import Mathlib.Data.List.TakeWhile
import Scorebook.Query.Positional
import Scorebook.Query.Slot

/-!
# Placeholders in a text

What the scan of a text finds, for texts that are put together from stretches without the mark `@`
and placeholders between them. The form of a placeholder is decided by what stands in front of its
mark: a list stands behind `UNNEST(`, a single value behind a blank or behind `LOWER(`. Whatever
stands further in front cannot change that, so such texts may be put together freely.
-/

namespace Scorebook

namespace Piece

/-- Whether a piece is a placeholder. -/
def isMark : Piece → Bool
  | .plain _ => false
  | _ => true

/-- The placeholders of a text from left to right. -/
def placeholders (cs : List Char) : List Piece := (scan cs).filter isMark

/-- The scan takes the first piece and goes on with the rest. -/
theorem scan_cons (c : Char) (cs : List Char) :
    scan (c :: cs) = (first c cs).1 :: scan (first c cs).2 := by
  rw [scan]

/-- The list form is an opening with a name and a closing bracket. -/
theorem spread?_eq_some {cs rest : List Char} {name : String} :
    spread? cs = some (name, rest) ↔
      ∃ tail, cs = "UNNEST(@".toList ++ tail ∧ name? tail = some (name, ')' :: rest) := by
  unfold spread?
  constructor
  · intro h
    split at h
    · rename_i name' rest' hb
      obtain ⟨tail, ht, hn⟩ := Option.bind_eq_some_iff.1 hb
      obtain ⟨rfl, rfl⟩ := Prod.mk.injEq .. ▸ Option.some.inj h
      exact ⟨tail, Text.dropOpening?_eq_some.1 ht, hn⟩
    · cases h
  · rintro ⟨tail, rfl, hn⟩
    simp only [Text.dropOpening?_eq_some.2 rfl, Option.bind_some, hn]

/-- What stands in front of the first mark is fixed by the text. -/
theorem front_eq_of_mark {front front' rest rest' : List Char} (h : '@' ∉ front)
    (h' : '@' ∉ front') (he : front ++ '@' :: rest = front' ++ '@' :: rest') :
    front = front' ∧ rest = rest' := by
  induction front generalizing front' with
  | nil =>
    cases front' with
    | nil => exact ⟨rfl, (List.cons.inj he).2⟩
    | cons c front' => exact absurd ((List.cons.inj he).1 ▸ List.mem_cons_self) h'
  | cons c front ih =>
    cases front' with
    | nil => exact absurd ((List.cons.inj he).1 ▸ List.mem_cons_self) h
    | cons c' front' =>
      obtain ⟨rfl, ht⟩ := List.cons.inj he
      obtain ⟨rfl, rfl⟩ := ih (fun hm => h (List.mem_cons_of_mem _ hm))
        (fun hm => h' (List.mem_cons_of_mem _ hm)) ht
      exact ⟨rfl, rfl⟩

/-- A list form at the start of a text whose first mark stands behind some front has just the
opening for its front. -/
theorem front_eq_of_spread? {front rest rest' : List Char} {name : String} (h : '@' ∉ front)
    (hs : spread? (front ++ '@' :: rest) = some (name, rest')) : front = "UNNEST(".toList := by
  obtain ⟨tail, ht, -⟩ := spread?_eq_some.1 hs
  have hsplit : "UNNEST(@".toList ++ tail = "UNNEST(".toList ++ '@' :: tail := by
    simp
  exact (front_eq_of_mark h (by decide) (ht.trans hsplit)).1

/-- A character that opens no placeholder is passed over. -/
theorem placeholders_cons {c : Char} {cs : List Char} (hc : c ≠ '@')
    (hs : spread? (c :: cs) = none) : placeholders (c :: cs) = placeholders cs := by
  have hsingle : single? (c :: cs) = none := by
    unfold single?
    split
    · rename_i heq
      exact absurd (List.cons.inj heq).1 hc
    · rfl
  have hfirst : first c cs = (.plain c, cs) := by
    simp only [first, hs, hsingle]
  rw [placeholders, scan_cons, hfirst]
  rfl

/-- A text without the mark has no placeholders. -/
theorem placeholders_of_quiet {cs : List Char} (h : '@' ∉ cs) : placeholders cs = [] := by
  induction cs with
  | nil => rw [placeholders, scan]; rfl
  | cons c cs ih =>
    obtain ⟨hc, hcs⟩ := not_or.1 (List.mem_cons.not.1 h)
    have hs : spread? (c :: cs) = none := by
      rw [Option.eq_none_iff_forall_ne_some]
      rintro ⟨name, rest⟩ hsome
      obtain ⟨tail, ht, -⟩ := spread?_eq_some.1 hsome
      exact h (ht ▸ List.mem_append_left _ (by decide))
    rw [placeholders_cons (Ne.symm hc) hs, ih hcs]

/-- A text that no name goes on with. -/
def EndsName (rest : List Char) : Prop := ∀ c ∈ rest.head?, c.isAlphanum = false ∧ c ≠ '_'

theorem EndsName.append {xs ys : List Char} (hx : EndsName xs) (hy : EndsName ys) :
    EndsName (xs ++ ys) := by
  cases xs with
  | nil => exact hy
  | cons x xs => exact fun c hc => hx c hc

/-- No name goes on with a closing bracket. -/
theorem endsName_bracket (rest : List Char) : EndsName (')' :: rest) := by
  rintro _ ⟨⟩
  decide

/-- A name opens with a letter or an underscore. -/
theorem opensName_iff {c : Char} : opensName c = true ↔ c.isAlpha = true ∨ c = '_' := by
  rw [opensName, Bool.or_eq_true, beq_iff_eq]

/-- It goes on with letters, digits and underscores. -/
theorem insideName_iff {c : Char} : insideName c = true ↔ c.isAlphanum = true ∨ c = '_' := by
  rw [insideName, Bool.or_eq_true, opensName_iff, Char.isAlphanum, Bool.or_eq_true,
    or_right_comm]

/-- It does not go on with anything else. -/
theorem insideName_eq_false_iff {c : Char} :
    insideName c = false ↔ c.isAlphanum = false ∧ c ≠ '_' := by
  rw [← Bool.not_eq_true, insideName_iff, not_or, Bool.not_eq_true]

/-- What is left behind the longest stretch of a name does not go on with it. -/
theorem endsName_dropWhile (cs : List Char) : EndsName (cs.dropWhile insideName) := by
  intro c hc
  have hnot := List.head?_dropWhile_not insideName cs
  rw [Option.mem_def.1 hc] at hnot
  exact insideName_eq_false_iff.1 hnot

/-- A name opens with a letter or an underscore; digits may stand behind it. -/
structure IsName (name : List Char) : Prop where
  /-- The first character opens a name. -/
  opens : ∃ c ∈ name.head?, c.isAlpha = true ∨ c = '_'
  /-- Every character may stand inside a name. -/
  inside : ∀ c ∈ name, c.isAlphanum = true ∨ c = '_'

/-- A name is read off the start of a text as far as it goes. -/
theorem name?_eq_some_iff {cs rest : List Char} {name : String} :
    name? cs = some (name, rest) ↔
      IsName name.toList ∧ EndsName rest ∧ cs = name.toList ++ rest := by
  constructor
  · intro h
    cases cs with
    | nil => cases h
    | cons c cs =>
      simp only [name?, Option.ite_none_right_eq_some, Option.some.injEq, Prod.mk.injEq] at h
      obtain ⟨hc, rfl, rfl⟩ := h
      have hinside : insideName c = true := by rw [insideName, hc, Bool.true_or]
      have htake : ∀ d ∈ c :: cs.takeWhile insideName, insideName d = true :=
        List.forall_mem_cons.2 ⟨hinside, fun _ => List.mem_takeWhile_imp⟩
      rw [String.toList_ofList]
      refine ⟨⟨⟨c, rfl, opensName_iff.1 hc⟩, fun d hd => insideName_iff.1 (htake d hd)⟩,
        endsName_dropWhile cs, ?_⟩
      rw [List.cons_append, List.takeWhile_append_dropWhile]
  · rintro ⟨⟨⟨c, hhead, hc⟩, hinside⟩, hends, rfl⟩
    obtain ⟨tail, hname⟩ := List.head?_eq_some_iff.1 hhead
    rw [hname] at hinside
    have htail (d : Char) (hd : d ∈ tail) : insideName d = true :=
      insideName_iff.2 ((List.forall_mem_cons.1 hinside).2 d hd)
    have htake : (tail ++ rest).takeWhile insideName = tail := by
      rw [List.takeWhile_append_of_pos htail]
      cases rest with
      | nil => simp
      | cons d rest => simp [insideName_eq_false_iff.2 (hends d rfl)]
    have hdrop : (tail ++ rest).dropWhile insideName = rest := by
      rw [List.dropWhile_append_of_pos htail]
      cases rest with
      | nil => rfl
      | cons d rest => simp [insideName_eq_false_iff.2 (hends d rfl)]
    rw [hname, List.cons_append, name?, if_pos (opensName_iff.2 hc), htake, hdrop, ← hname,
      String.ofList_toList]

/-- The words for the placeholders are names. -/
theorem isName_slot (slot : Slot) : IsName (Vocabulary.name slot).toList := by
  obtain ⟨hopens, hinside⟩ : (Vocabulary.name slot).toList.head?.any opensName = true ∧
      (Vocabulary.name slot).toList.all insideName = true := by
    cases slot <;> decide
  obtain ⟨c, hc, hopens⟩ := (Option.any_eq_true ..).1 hopens
  exact ⟨⟨c, hc, opensName_iff.1 hopens⟩,
    fun d hd => insideName_iff.1 (List.all_eq_true.1 hinside d hd)⟩

/-- A list form at the start is found first. -/
theorem placeholders_of_spread? {cs rest : List Char} {name : String}
    (h : spread? cs = some (name, rest)) :
    placeholders cs = .spread name :: placeholders rest := by
  cases cs with
  | nil =>
    obtain ⟨tail, ht, -⟩ := spread?_eq_some.1 h
    exact absurd (congrArg List.length ht) (by simp)
  | cons c cs =>
    have hfirst : first c cs = (.spread name, rest) := by simp only [first, h]
    rw [placeholders, scan_cons, hfirst]
    rfl

/-- A single placeholder at the start is found first. -/
theorem placeholders_of_mark {cs rest : List Char} {name : String}
    (h : name? cs = some (name, rest)) :
    placeholders ('@' :: cs) = .single name :: placeholders rest := by
  have hs : spread? ('@' :: cs) = none := by
    rw [Option.eq_none_iff_forall_ne_some]
    rintro ⟨name', rest'⟩ hsome
    have hfront : [] = "UNNEST(".toList := front_eq_of_spread? List.not_mem_nil hsome
    exact absurd hfront (by decide)
  have hfirst : first '@' cs = (.single name, rest) := by simp only [first, hs, single?, h]
  rw [placeholders, scan_cons, hfirst]
  rfl

/-- In front of a mark, what is no list opening is passed over. -/
theorem placeholders_front {front tail : List Char} {c : Char} (hq : '@' ∉ c :: front)
    (hne : c :: front ≠ "UNNEST(".toList) :
    placeholders (c :: front ++ '@' :: tail) = placeholders (front ++ '@' :: tail) := by
  have hc : c ≠ '@' := fun he => hq (he ▸ List.mem_cons_self)
  apply placeholders_cons hc
  rw [Option.eq_none_iff_forall_ne_some]
  rintro ⟨name, rest⟩ hsome
  exact hne (front_eq_of_spread? hq hsome)

end Piece

namespace Slot

/-- The placeholder as the scan finds it. -/
def piece (slot : Slot) : Piece :=
  if slot.isList then .spread (Vocabulary.name slot) else .single (Vocabulary.name slot)

theorem mark_toList (slot : Slot) : slot.mark.toList = '@' :: (Vocabulary.name slot).toList := by
  simp [mark]

/-- A list placeholder is found in its form, whatever stands in front. -/
theorem placeholders_spread {slot : Slot} {front rest : List Char} (hq : '@' ∉ front) :
    Piece.placeholders (front ++ "UNNEST(".toList ++ slot.mark.toList ++ ')' :: rest) =
      .spread (Vocabulary.name slot) :: Piece.placeholders rest := by
  have hends := Piece.endsName_bracket rest
  have hname := Piece.name?_eq_some_iff.2 ⟨Piece.isName_slot slot, hends, rfl⟩
  have hopen : '@' ∉ "UNNEST(".toList := by decide
  simp only [mark_toList, List.append_assoc, List.cons_append] at hname ⊢
  induction front with
  | nil => exact Piece.placeholders_of_spread? (Piece.spread?_eq_some.2 ⟨_, by simp, hname⟩)
  | cons c front ih =>
    have hne : c :: (front ++ "UNNEST(".toList) ≠ "UNNEST(".toList := by
      intro he
      have hl := congrArg List.length he
      simp only [List.length_cons, List.length_append] at hl
      omega
    have hq' : '@' ∉ c :: (front ++ "UNNEST(".toList) := by
      simp only [List.mem_cons, List.mem_append, not_or] at hq ⊢
      exact ⟨hq.1, hq.2, hopen⟩
    have hstep (tail : List Char) := @Piece.placeholders_front _ tail c hq' hne
    simp only [List.cons_append, List.append_assoc] at hstep ⊢
    rw [hstep, ih (fun hm => hq (List.mem_cons_of_mem _ hm))]

/-- A placeholder by itself is found as such, unless a list opening stands right in front. -/
theorem placeholders_single {slot : Slot} {front rest : List Char} (hq : '@' ∉ front)
    (hopen : ¬ "UNNEST(".toList <:+ front) (hends : Piece.EndsName rest) :
    Piece.placeholders (front ++ slot.mark.toList ++ rest) =
      .single (Vocabulary.name slot) :: Piece.placeholders rest := by
  have hname := Piece.name?_eq_some_iff.2 ⟨Piece.isName_slot slot, hends, rfl⟩
  simp only [mark_toList, List.append_assoc, List.cons_append] at hname ⊢
  induction front with
  | nil => exact Piece.placeholders_of_mark hname
  | cons c front ih =>
    have hne : c :: front ≠ "UNNEST(".toList := fun he => hopen (he ▸ List.suffix_rfl)
    rw [Piece.placeholders_front hq hne]
    exact ih (fun hm => hq (List.mem_cons_of_mem _ hm))
      (fun hs => hopen (hs.trans (List.suffix_cons c front)))

end Slot

/-- What makes a placeholder behind it stand by itself: a blank, or the opening of another
function. -/
def LeadsToSingle (front : List Char) : Prop :=
  " ".toList <:+ front ∨ "LOWER(".toList <:+ front

/-- No list opening stands at such an end. -/
theorem LeadsToSingle.not_opening {front : List Char} (h : LeadsToSingle front) :
    ¬ "UNNEST(".toList <:+ front := by
  intro ho
  rcases h with h | h
  · exact absurd (List.suffix_of_suffix_length_le h ho (by decide)) (by decide)
  · exact absurd (List.suffix_of_suffix_length_le h ho (by decide)) (by decide)

/-- A text put together from quiet stretches and placeholders in their forms. -/
inductive Marked : List Char → List Slot → Prop
  /-- A text without the mark. -/
  | quiet {cs : List Char} : '@' ∉ cs → Marked cs []
  /-- A quiet front, a placeholder by itself, and a text that its name does not go on with. -/
  | single {front rest : List Char} {slot : Slot} {slots : List Slot} :
    '@' ∉ front → LeadsToSingle front → slot.isList = false → Piece.EndsName rest →
    Marked rest slots → Marked (front ++ slot.mark.toList ++ rest) (slot :: slots)
  /-- A quiet front, a placeholder in the list form, and a text. -/
  | spread {front rest : List Char} {slot : Slot} {slots : List Slot} :
    '@' ∉ front → slot.isList = true → Marked rest slots →
    Marked (front ++ "UNNEST(".toList ++ slot.mark.toList ++ ')' :: rest) (slot :: slots)

namespace Marked

variable {cs ds : List Char} {slots more : List Slot}

/-- The scan finds exactly the placeholders that such a text was put together with. -/
theorem placeholders_eq (h : Marked cs slots) : Piece.placeholders cs = slots.map Slot.piece := by
  induction h with
  | quiet hq => exact Piece.placeholders_of_quiet hq
  | single hq hlead hslot hends _ ih =>
    rw [Slot.placeholders_single hq hlead.not_opening hends, ih, List.map_cons, Slot.piece, hslot]
    rfl
  | spread hq hslot _ ih =>
    rw [Slot.placeholders_spread hq, ih, List.map_cons, Slot.piece, if_pos hslot]

/-- A quiet stretch may stand in front. -/
theorem prepend {front : List Char} (hq : '@' ∉ front) (h : Marked cs slots) :
    Marked (front ++ cs) slots := by
  have hquiet {front' : List Char} (hq' : '@' ∉ front') : '@' ∉ front ++ front' := by
    rw [List.mem_append, not_or]
    exact ⟨hq, hq'⟩
  cases h with
  | quiet hcs => exact .quiet (hquiet hcs)
  | single hf hlead hslot hends hrest =>
    have hlead' := hlead.imp (·.trans (List.suffix_append front _))
      (·.trans (List.suffix_append front _))
    simpa only [List.append_assoc] using Marked.single (hquiet hf) hlead' hslot hends hrest
  | spread hf hslot hrest =>
    simpa only [List.append_assoc] using Marked.spread (hquiet hf) hslot hrest

/-- Two such texts may stand one behind the other, if the second does not go on with a name. -/
theorem append (h : Marked cs slots) (h' : Marked ds more) (hends : Piece.EndsName ds) :
    Marked (cs ++ ds) (slots ++ more) := by
  induction h with
  | quiet hq => exact h'.prepend hq
  | single hf hlead hslot hrest _ ih =>
    simpa only [List.append_assoc, List.cons_append] using
      Marked.single hf hlead hslot (hrest.append hends) ih
  | spread hf hslot _ ih =>
    simpa only [List.append_assoc, List.cons_append] using Marked.spread hf hslot ih

end Marked

end Scorebook
