import Scorebook.Proofs.Query.Marks

/-!
# Where placeholders stand in a text

A placeholder is a mark with the longest name behind it, or the list form around a mark and a name.
A text is cut from left to right: what starts with a placeholder loses it, and what does not loses
one character. There is one way to cut every text, and the scan of the text finds it.
-/

namespace Scorebook.Piece

/-- A text starts with a placeholder, and goes on behind it. -/
inductive Occurs : List Char → Piece → List Char → Prop
  /-- A list form with a name inside. -/
  | spread {name : String} {rest : List Char} : IsName name.toList →
    Occurs ("UNNEST(@".toList ++ (name.toList ++ ')' :: rest)) (.spread name) rest
  /-- A mark with a name, which does not go on in what follows. -/
  | single {name : String} {rest : List Char} : IsName name.toList → EndsName rest →
    Occurs ('@' :: (name.toList ++ rest)) (.single name) rest

/-- A text is cut into pieces from left to right. -/
inductive Cuts : List Char → List Piece → Prop
  /-- Nothing is left to cut. -/
  | nil : Cuts [] []
  /-- A placeholder is cut off where the text starts with one. -/
  | occurs {cs rest : List Char} {piece : Piece} {pieces : List Piece} : Occurs cs piece rest →
    Cuts rest pieces → Cuts cs (piece :: pieces)
  /-- A single character is cut off where the text starts with no placeholder. -/
  | plain {c : Char} {cs : List Char} {pieces : List Piece} :
    (∀ piece rest, ¬ Occurs (c :: cs) piece rest) → Cuts cs pieces →
    Cuts (c :: cs) (.plain c :: pieces)

/-- The list form at the start of a text. -/
theorem spread?_eq_some_iff {cs rest : List Char} {name : String} :
    spread? cs = some (name, rest) ↔ Occurs cs (.spread name) rest := by
  rw [spread?_eq_some]
  constructor
  · rintro ⟨tail, rfl, h⟩
    obtain ⟨hname, -, rfl⟩ := name?_eq_some_iff.1 h
    exact .spread hname
  · intro h
    cases h with
    | spread hname =>
      exact ⟨_, rfl, name?_eq_some_iff.2 ⟨hname, endsName_bracket rest, rfl⟩⟩

/-- The mark with a name at the start of a text. -/
theorem single?_eq_some_iff {cs rest : List Char} {name : String} :
    single? cs = some (name, rest) ↔ Occurs cs (.single name) rest := by
  constructor
  · intro h
    unfold single? at h
    split at h
    · obtain ⟨hname, hends, rfl⟩ := name?_eq_some_iff.1 h
      exact .single hname hends
    · cases h
  · intro h
    cases h with
    | single hname hends => exact name?_eq_some_iff.2 ⟨hname, hends, rfl⟩

/-- No text starts with both forms of a placeholder. -/
theorem Occurs.not_both {cs rest rest' : List Char} {name name' : String}
    (h : Occurs cs (.spread name) rest) : ¬ Occurs cs (.single name') rest' := by
  intro h'
  have hspread : cs.head? = some 'U' := by
    cases h
    rfl
  have hsingle : cs.head? = some '@' := by
    cases h'
    rfl
  exact absurd (hspread.symm.trans hsingle) (by decide)

/-- The first piece of a text is the placeholder at its start. -/
theorem occurs_iff {c : Char} {cs rest : List Char} {piece : Piece} :
    Occurs (c :: cs) piece rest ↔ first c cs = (piece, rest) ∧ piece.isMark = true := by
  cases piece with
  | plain d => exact ⟨nofun, fun h => absurd h.2 Bool.false_ne_true⟩
  | spread name =>
    rw [← spread?_eq_some_iff, first]
    cases spread? (c :: cs) with
    | some found => simp [isMark, Prod.ext_iff]
    | none => cases single? (c :: cs) <;> simp
  | single name =>
    constructor
    · intro h
      have hspread : spread? (c :: cs) = none := by
        rw [Option.eq_none_iff_forall_ne_some]
        exact fun _ hs => (spread?_eq_some_iff.1 hs).not_both h
      simp only [first, hspread, single?_eq_some_iff.2 h]
      exact ⟨trivial, rfl⟩
    · rintro ⟨h, -⟩
      rw [← single?_eq_some_iff]
      unfold first at h
      cases hspread : spread? (c :: cs) with
      | some found => simp [hspread] at h
      | none =>
        cases hsingle : single? (c :: cs) with
        | some found => simpa [hspread, hsingle, Prod.ext_iff] using h
        | none => simp [hspread, hsingle] at h

/-- Without a placeholder at the start, the first piece is the first character. -/
theorem first_eq_plain {c : Char} {cs : List Char}
    (h : ∀ piece rest, ¬ Occurs (c :: cs) piece rest) : first c cs = (.plain c, cs) := by
  unfold first
  split
  · rename_i hs
    exact absurd (spread?_eq_some_iff.1 hs) (h _ _)
  · split
    · rename_i hs
      exact absurd (single?_eq_some_iff.1 hs) (h _ _)
    · rfl

/-- There is one way to cut a text, and the scan finds it. -/
theorem cuts_iff {cs : List Char} {pieces : List Piece} : Cuts cs pieces ↔ pieces = scan cs := by
  constructor
  · intro h
    induction h with
    | nil => rw [scan]
    | @occurs cs rest piece pieces ho _ ih =>
      cases cs with
      | nil => cases ho
      | cons c cs => rw [scan_cons, (occurs_iff.1 ho).1, ih]
    | plain hno _ ih => rw [scan_cons, first_eq_plain hno, ih]
  · rintro rfl
    fun_induction scan cs with
    | case1 => exact .nil
    | case2 c cs ih =>
      by_cases hmark : (first c cs).1.isMark = true
      · exact .occurs (occurs_iff.2 ⟨rfl, hmark⟩) ih
      · have hno : ∀ piece rest, ¬ Occurs (c :: cs) piece rest := by
          intro piece rest ho
          obtain ⟨hfirst, hpiece⟩ := occurs_iff.1 ho
          exact hmark (by rw [hfirst, hpiece])
        rw [first_eq_plain hno] at ih ⊢
        exact .plain hno ih

/-- A mark in front of the list form takes its name, and what stands inside is found by itself. -/
example : Cuts "@UNNEST(@x)".toList [.single "UNNEST", .plain '(', .single "x", .plain ')'] :=
  cuts_iff.2 (by decide +kernel)

end Scorebook.Piece
