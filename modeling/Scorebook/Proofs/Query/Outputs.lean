import Mathlib.Data.List.Induction
import Scorebook.Proofs.Repetition
import Scorebook.Query.Statement

/-!
# Outputs that are shown once

Outputs are put one behind another, and one whose text is shown already is left out. So no text is
shown twice, the texts that are shown are those of all outputs in the order in which they occur
first, and what was shown before stays in front. Main statement: where outputs of one name have one
text, no name is shown twice either.
-/

namespace Scorebook

namespace Output

/-- The texts of the expressions that are shown. -/
def texts (outputs : List Output) : List String := outputs.map fun output => output.expr.sql

variable {outputs others : List Output} {output : Output}

/-- An output is put behind the others unless its text is shown already. -/
theorem add_eq (outputs : List Output) (output : Output) :
    add outputs output =
      if output.expr.sql ∈ texts outputs then outputs else outputs ++ [output] := by
  have hshown : (outputs.any fun shown => shown.expr.sql == output.expr.sql) = true ↔
      output.expr.sql ∈ texts outputs := by
    simp only [List.any_eq_true, beq_iff_eq, texts, List.mem_map]
  unfold add
  by_cases h : output.expr.sql ∈ texts outputs
  · rw [if_pos (hshown.2 h), if_pos h]
  · rw [if_neg (fun hany => h (hshown.1 hany)), if_neg h]

/-- Outputs may be put behind the others all at once, or some of them first. -/
theorem addAll_append (outputs first second : List Output) :
    addAll outputs (first ++ second) = addAll (addAll outputs first) second :=
  List.foldl_append

/-- What is shown stays in front, and what comes behind it are some of the others, in order. -/
theorem addAll_eq_append (outputs others : List Output) :
    ∃ more, addAll outputs others = outputs ++ more ∧ more.Sublist others := by
  induction others generalizing outputs with
  | nil => exact ⟨[], (List.append_nil outputs).symm, List.Sublist.slnil⟩
  | cons output others ih =>
    obtain ⟨more, heq, hsub⟩ := ih (add outputs output)
    have hstep : addAll outputs (output :: others) = addAll (add outputs output) others := rfl
    rw [hstep, heq, add_eq]
    by_cases h : output.expr.sql ∈ texts outputs
    · rw [if_pos h]
      exact ⟨more, rfl, List.Sublist.cons output hsub⟩
    · rw [if_neg h]
      exact ⟨output :: more, List.append_assoc .., List.Sublist.cons_cons output hsub⟩

/-- Nothing comes behind what is shown exactly if every other text is shown already. -/
theorem length_addAll_eq_iff (outputs others : List Output) :
    (addAll outputs others).length = outputs.length ↔
      ∀ output ∈ others, output.expr.sql ∈ texts outputs := by
  induction others generalizing outputs with
  | nil => exact ⟨fun _ => List.forall_mem_nil _, fun _ => rfl⟩
  | cons output others ih =>
    have hstep : addAll outputs (output :: others) = addAll (add outputs output) others := rfl
    rw [hstep, add_eq, List.forall_mem_cons]
    by_cases h : output.expr.sql ∈ texts outputs
    · rw [if_pos h, ih]
      exact ⟨fun hall => ⟨h, hall⟩, And.right⟩
    · rw [if_neg h]
      obtain ⟨more, heq, -⟩ := addAll_eq_append (outputs ++ [output]) others
      have hlonger : (addAll (outputs ++ [output]) others).length ≠ outputs.length := by
        rw [heq, List.length_append, List.length_append, List.length_singleton]
        omega
      exact ⟨fun hlength => absurd hlength hlonger, fun hall => absurd hall.1 h⟩

/-- Outputs whose texts are all shown already change nothing. -/
theorem addAll_of_shown (h : ∀ output ∈ others, output.expr.sql ∈ texts outputs) :
    addAll outputs others = outputs := by
  obtain ⟨more, heq, -⟩ := addAll_eq_append outputs others
  have hlength := (length_addAll_eq_iff outputs others).2 h
  rw [heq, List.length_append] at hlength
  have hnil : more = [] := List.eq_nil_of_length_eq_zero (by omega)
  rw [heq, hnil, List.append_nil]

/-- The texts that are shown are those that were shown before and those of the others. -/
theorem mem_texts_addAll {text : String} :
    text ∈ texts (addAll outputs others) ↔ text ∈ texts outputs ∨ text ∈ texts others := by
  induction others generalizing outputs with
  | nil => exact (or_iff_left List.not_mem_nil).symm
  | cons output others ih =>
    have hstep : addAll outputs (output :: others) = addAll (add outputs output) others := rfl
    have hadd : text ∈ texts (add outputs output) ↔
        text ∈ texts outputs ∨ text = output.expr.sql := by
      rw [add_eq]
      by_cases h : output.expr.sql ∈ texts outputs
      · rw [if_pos h]
        exact ⟨Or.inl, fun hor => hor.elim id fun he => he ▸ h⟩
      · rw [if_neg h, texts, List.map_append, List.mem_append]
        exact or_congr_right List.mem_singleton
    rw [hstep, ih, hadd, or_assoc]
    exact or_congr_right List.mem_cons.symm

/-- Where outputs are added key by key, a key that comes again adds nothing. -/
theorem addAll_flatMap_eraseDups (outputs : List Output) (f : String → List Output)
    (keys : List String) :
    addAll outputs (keys.eraseDups.flatMap f) = addAll outputs (keys.flatMap f) := by
  induction keys using List.reverseRecOn with
  | nil => rfl
  | append_singleton keys key ih =>
    have hlast : addAll outputs ((keys ++ [key]).flatMap f) =
        addAll (addAll outputs (keys.flatMap f)) (f key) := by
      rw [List.flatMap_append, List.flatMap_singleton, addAll_append]
    rw [eraseDups_concat, hlast]
    by_cases h : key ∈ keys
    · rw [if_pos h, ih]
      refine (addAll_of_shown fun output hmem => mem_texts_addAll.2 (Or.inr ?_)).symm
      exact List.mem_map_of_mem (List.mem_flatMap.2 ⟨key, h, hmem⟩)
    · rw [if_neg h, List.flatMap_append, List.flatMap_singleton, addAll_append, ih]

/-- Adding outputs brings in no others. -/
theorem mem_addAll (h : output ∈ addAll outputs others) : output ∈ outputs ∨ output ∈ others := by
  obtain ⟨more, heq, hsub⟩ := addAll_eq_append outputs others
  rw [heq] at h
  rcases List.mem_append.1 h with hshown | hmore
  · exact Or.inl hshown
  · exact Or.inr (hsub.mem hmore)

/-- The texts that are shown are those of all outputs without repetitions. -/
theorem texts_addAll_nil (others : List Output) :
    texts (addAll [] others) = (texts others).eraseDups := by
  induction others using List.reverseRecOn with
  | nil => rfl
  | append_singleton others output ih =>
    have hlast : texts (others ++ [output]) = texts others ++ [output.expr.sql] := by
      simp [texts]
    have hmem : output.expr.sql ∈ texts (addAll [] others) ↔
        output.expr.sql ∈ texts others := by
      rw [ih, List.mem_eraseDups]
    have hstep : addAll [] (others ++ [output]) = add (addAll [] others) output := by
      rw [addAll_append]
      rfl
    rw [hstep, add_eq, hlast, eraseDups_concat, ← ih]
    by_cases h : output.expr.sql ∈ texts others
    · rw [if_pos (hmem.2 h), if_pos h]
    · rw [if_neg (fun hs => h (hmem.1 hs)), if_neg h]
      simp [texts]

/-- No text is shown twice. -/
theorem texts_addAll_nil_nodup (others : List Output) : (texts (addAll [] others)).Nodup := by
  rw [texts_addAll_nil]
  exact (keepsFirst_eraseDups (texts others)).nodup

/-- Where no text is repeated, everything is shown. -/
theorem addAll_nil_of_nodup (h : (texts others).Nodup) : addAll [] others = others := by
  obtain ⟨more, heq, hsub⟩ := addAll_eq_append [] others
  have htexts : texts more = texts others := by
    rw [← eraseDups_of_nodup h, ← texts_addAll_nil, heq, List.nil_append]
  have hlength : more.length = others.length := by
    simpa [texts] using congrArg List.length htexts
  rw [heq, List.nil_append]
  exact hsub.eq_of_length hlength

/-- Where outputs of one name have one text, no name is shown twice. -/
theorem names_addAll_nil_nodup
    (h : ∀ a ∈ others, ∀ b ∈ others, a.name = b.name → a.expr.sql = b.expr.sql) :
    ((addAll [] others).map Output.name).Nodup := by
  have hmem {a : Output} (ha : a ∈ addAll [] others) : a ∈ others :=
    (mem_addAll ha).resolve_left List.not_mem_nil
  have htexts := List.pairwise_map.1 (texts_addAll_nil_nodup others)
  apply List.pairwise_map.2
  apply htexts.imp_of_mem
  intro a b ha hb hne hname
  exact hne (h a (hmem ha) b (hmem hb) hname)

end Output

end Scorebook
