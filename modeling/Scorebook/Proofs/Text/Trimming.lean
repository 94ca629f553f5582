import Mathlib.Data.List.TakeWhile
import Scorebook.Text.Blank

/-!
# What trimming leaves

A text is blanks, what trimming leaves of it, and blanks again, and what is left neither starts nor
ends with a blank. No other part of the text is like this, so blanks around a text make no
difference to what is left.
-/

namespace Scorebook.Text

/-- All characters are blank. -/
def AllBlank (cs : List Char) : Prop := ∀ c ∈ cs, isBlank c = true

instance (cs : List Char) : Decidable (AllBlank cs) :=
  List.decidableBAll (fun c : Char => isBlank c = true) cs

/-- A text neither starts nor ends with a blank. -/
structure Trimmed (cs : List Char) : Prop where
  /-- The first character is not blank. -/
  head : ∀ c ∈ cs.head?, isBlank c = false
  /-- The last character is not blank. -/
  last : ∀ c ∈ cs.getLast?, isBlank c = false

variable {front cs mid back : List Char}

/-- Blanks before and behind are blanks together. -/
theorem AllBlank.append (hfront : AllBlank front) (hback : AllBlank back) :
    AllBlank (front ++ back) := by
  intro c hc
  exact (List.mem_append.1 hc).elim (hfront c) (hback c)

/-- Nothing is trimmed at the start of a text that does not start with a blank. -/
theorem trimStart_eq_self (h : ∀ c ∈ cs.head?, isBlank c = false) : trimStart cs = cs := by
  cases cs with
  | nil => rfl
  | cons c cs => exact trimStart_cons cs (h c rfl)

/-- Nothing is trimmed at the end of a text that does not end with a blank. -/
theorem trimEnd_eq_self (h : ∀ c ∈ cs.getLast?, isBlank c = false) : trimEnd cs = cs := by
  have hreverse : trimStart cs.reverse = cs.reverse :=
    trimStart_eq_self fun c hc => h c (List.head?_reverse ▸ hc)
  change (trimStart cs.reverse).reverse = cs
  rw [hreverse, List.reverse_reverse]

/-- Blanks in front are trimmed at the start. -/
theorem trimStart_append (h : AllBlank front) : trimStart (front ++ cs) = trimStart cs :=
  List.dropWhile_append_of_pos h

/-- Blanks behind are trimmed at the end. -/
theorem trimEnd_append (h : AllBlank back) : trimEnd (cs ++ back) = trimEnd cs := by
  have hreverse : AllBlank back.reverse := fun c hc => h c (List.mem_reverse.1 hc)
  change (trimStart (cs ++ back).reverse).reverse = (trimStart cs.reverse).reverse
  rw [List.reverse_append, trimStart_append hreverse]

/-- What stands between blanks, and neither starts nor ends with one, is left. -/
theorem Trimmed.trim_eq (h : Trimmed mid) (hfront : AllBlank front) (hback : AllBlank back) :
    trim (front ++ mid ++ back) = mid := by
  rw [trim, List.append_assoc, trimStart_append hfront]
  cases mid with
  | nil =>
    have hall : trimStart back = [] := List.dropWhile_eq_nil_iff.2 hback
    rw [List.nil_append, hall]
    rfl
  | cons c cs =>
    rw [List.cons_append, trimStart_cons _ (h.head c rfl), ← List.cons_append,
      trimEnd_append hback, trimEnd_eq_self h.last]

/-- Blanks, what trimming leaves, and blanks again are the text. -/
theorem exists_trim (cs : List Char) :
    ∃ front back, AllBlank front ∧ AllBlank back ∧ cs = front ++ trim cs ++ back ∧
      Trimmed (trim cs) := by
  have hhead : ∀ ds : List Char, ∀ c ∈ (trimStart ds).head?, isBlank c = false := by
    intro ds c hc
    have hnot := List.head?_dropWhile_not isBlank ds
    rw [show (ds.dropWhile isBlank).head? = some c from hc] at hnot
    simpa using hnot
  obtain ⟨back, hback, hsplit⟩ :
      ∃ back, AllBlank back ∧ trimStart cs = trim cs ++ back := by
    refine ⟨((trimStart cs).reverse.takeWhile isBlank).reverse, fun c hc => ?_, ?_⟩
    · exact List.mem_takeWhile_imp (List.mem_reverse.1 hc)
    · rw [trim, trimEnd, ← List.reverse_append, List.takeWhile_append_dropWhile,
        List.reverse_reverse]
  refine ⟨cs.takeWhile isBlank, back, fun c hc => List.mem_takeWhile_imp hc, hback, ?_, ?_, ?_⟩
  · rw [List.append_assoc, ← hsplit]
    exact (List.takeWhile_append_dropWhile ..).symm
  · intro c hc
    apply hhead cs c
    rw [hsplit, List.head?_append, hc]
    rfl
  · intro c hc
    apply hhead (trimStart cs).reverse c
    rw [← List.getLast?_reverse]
    exact hc

/-- What is left neither starts nor ends with a blank. -/
theorem trimmed_trim (cs : List Char) : Trimmed (trim cs) := by
  obtain ⟨-, -, -, -, -, htrimmed⟩ := exists_trim cs
  exact htrimmed

/-- Blanks around a text make no difference to what is left. -/
theorem trim_surrounded (hfront : AllBlank front) (hback : AllBlank back) :
    trim (front ++ cs ++ back) = trim cs := by
  obtain ⟨before, after, hbefore, hafter, hsplit, htrimmed⟩ := exists_trim cs
  calc
    trim (front ++ cs ++ back) = trim (front ++ (before ++ trim cs ++ after) ++ back) :=
      congrArg (fun inner => trim (front ++ inner ++ back)) hsplit
    _ = trim (front ++ before ++ trim cs ++ (after ++ back)) := by simp only [List.append_assoc]
    _ = trim cs := htrimmed.trim_eq (hfront.append hbefore) (hafter.append hback)

/-- A text that neither starts nor ends with a blank is left as it is. -/
theorem Trimmed.trim_eq_self (h : Trimmed cs) : trim cs = cs := by
  have hnone : AllBlank [] := nofun
  simpa using h.trim_eq hnone hnone

end Scorebook.Text
