/-!
# Text search

Whether one text occurs inside another, as a test and as a statement about contiguous parts; the two
agree for all texts. Also the smaller tools that the other modules share: a text cut at a character,
and a text that opens or closes another taken off.
-/

namespace Scorebook.Text

/-- Whether `pattern` occurs in a text at some position. -/
def occursIn (pattern : List Char) : List Char → Bool
  | [] => pattern.isEmpty
  | c :: cs => pattern.isPrefixOf (c :: cs) || occursIn pattern cs

/-- The test finds exactly the contiguous parts of the text. -/
theorem occursIn_iff {pattern cs : List Char} : occursIn pattern cs = true ↔ pattern <:+: cs := by
  induction cs with
  | nil => simp [occursIn, List.isEmpty_iff]
  | cons c cs ih => simp [occursIn, ih, List.infix_cons_iff]

/-- The rest of a text behind an opening that it starts with. -/
def dropOpening? : (opening cs : List Char) → Option (List Char)
  | [], cs => some cs
  | _ :: _, [] => none
  | o :: os, c :: cs => if o = c then dropOpening? os cs else none

/-- An opening is taken off exactly where the text starts with it. -/
theorem dropOpening?_eq_some {opening cs rest : List Char} :
    dropOpening? opening cs = some rest ↔ cs = opening ++ rest := by
  induction opening generalizing cs with
  | nil => simp [dropOpening?]
  | cons o os ih =>
    cases cs with
    | nil => simp [dropOpening?]
    | cons c cs =>
      by_cases h : o = c
      · subst h
        simp [dropOpening?, ih]
      · simp [dropOpening?, h, Ne.symm h]

/-- The part of a text in front of a closing that it ends with. -/
def dropClosing? (closing cs : List Char) : Option (List Char) :=
  (dropOpening? closing.reverse cs.reverse).map List.reverse

/-- A closing is taken off exactly where the text ends with it. -/
theorem dropClosing?_eq_some {closing cs front : List Char} :
    dropClosing? closing cs = some front ↔ cs = front ++ closing := by
  simp only [dropClosing?, Option.map_eq_some_iff, dropOpening?_eq_some]
  constructor
  · rintro ⟨tail, h, rfl⟩
    simpa using congrArg List.reverse h
  · rintro rfl
    exact ⟨front.reverse, by simp, by simp⟩

/-- The parts of a text between the occurrences of a character; always at least one part. -/
def splitAt (mark : Char) : List Char → List (List Char)
  | [] => [[]]
  | c :: cs =>
    if c = mark then [] :: splitAt mark cs
    else match splitAt mark cs with
      | [] => [[c]]
      | part :: parts => (c :: part) :: parts

/-- Strings with a text between neighbours. -/
def joinWith (between : String) : List String → String
  | [] => ""
  | [only] => only
  | first :: second :: rest => first ++ between ++ joinWith between (second :: rest)

end Scorebook.Text
