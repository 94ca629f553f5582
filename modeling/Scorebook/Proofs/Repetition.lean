import Mathlib.Data.List.Basic

/-!
# Lists without repetitions

A list from which repetitions are dropped has the same members, in the order in which they occur
first. Dropping them a second time changes nothing.
-/

namespace Scorebook

variable {α : Type} [BEq α]

/-- A list keeps the first occurrence of everything that is listed, and nothing else. -/
structure KeepsFirst (listed kept : List α) : Prop where
  /-- What is kept is what is listed. -/
  mem_iff : ∀ a, a ∈ kept ↔ a ∈ listed
  /-- It is kept in the order of the first occurrences. -/
  ordered : kept.Pairwise fun a b => listed.idxOf a < listed.idxOf b

/-- Nothing is kept twice. -/
theorem KeepsFirst.nodup {listed kept : List α} (h : KeepsFirst listed kept) : kept.Nodup := by
  refine h.ordered.imp ?_
  rintro a _ hlt rfl
  exact Nat.lt_irrefl _ hlt

variable [LawfulBEq α]

/-- Leaving out some members does not change which of two others occurs first. -/
theorem idxOf_lt_of_filter {p : α → Bool} {a b : α} {l : List α} (ha : p a = true)
    (hb : p b = true) (h : (l.filter p).idxOf a < (l.filter p).idxOf b) :
    l.idxOf a < l.idxOf b := by
  induction l with
  | nil => exact absurd h (Nat.lt_irrefl 0)
  | cons c l ih =>
    by_cases hc : p c = true
    · rw [List.filter_cons_of_pos hc] at h
      by_cases hca : c = a
      · subst hca
        have hcb : c ≠ b := by
          rintro rfl
          exact Nat.lt_irrefl _ h
        rw [List.idxOf_cons_self, List.idxOf_cons_ne l hcb]
        exact Nat.succ_pos _
      · by_cases hcb : c = b
        · subst hcb
          rw [List.idxOf_cons_self] at h
          exact absurd h (Nat.not_lt_zero _)
        · rw [List.idxOf_cons_ne _ hca, List.idxOf_cons_ne _ hcb] at h ⊢
          exact Nat.succ_lt_succ (ih (Nat.lt_of_succ_lt_succ h))
    · rw [List.filter_cons_of_neg hc] at h
      have hca : c ≠ a := by
        rintro rfl
        exact hc ha
      have hcb : c ≠ b := by
        rintro rfl
        exact hc hb
      rw [List.idxOf_cons_ne _ hca, List.idxOf_cons_ne _ hcb]
      exact Nat.succ_lt_succ (ih h)

/-- Dropping repetitions keeps the first occurrences. -/
theorem keepsFirst_eraseDups (l : List α) : KeepsFirst l l.eraseDups := by
  refine ⟨fun a => List.mem_eraseDups, ?_⟩
  cases l with
  | nil => exact List.Pairwise.nil
  | cons a l =>
    have hrest := keepsFirst_eraseDups (l.filter fun b => !b == a)
    have hother {b : α} (hb : b ∈ (l.filter fun b => !b == a).eraseDups) : (!b == a) = true :=
      (List.mem_filter.1 (List.mem_eraseDups.1 hb)).2
    have hne {b : α} (hb : b ∈ (l.filter fun b => !b == a).eraseDups) : a ≠ b := by
      rintro rfl
      simpa using hother hb
    rw [List.eraseDups_cons, List.pairwise_cons]
    refine ⟨fun b hb => ?_, hrest.ordered.imp_of_mem ?_⟩
    · rw [List.idxOf_cons_self, List.idxOf_cons_ne l (hne hb)]
      exact Nat.succ_pos _
    · intro b c hb hc hlt
      rw [List.idxOf_cons_ne l (hne hb), List.idxOf_cons_ne l (hne hc)]
      exact Nat.succ_lt_succ (idxOf_lt_of_filter (hother hb) (hother hc) hlt)
termination_by l.length
decreasing_by exact Nat.lt_succ_of_le (List.length_filter_le _ _)

/-- Where nothing is repeated, nothing is dropped. -/
theorem eraseDups_of_nodup {l : List α} (h : l.Nodup) : l.eraseDups = l := by
  induction l with
  | nil => rfl
  | cons a l ih =>
    obtain ⟨ha, hl⟩ := List.nodup_cons.1 h
    have hall : ∀ b ∈ l, (!b == a) = true := by
      intro b hb
      simp only [Bool.not_eq_true', beq_eq_false_iff_ne]
      rintro rfl
      exact ha hb
    rw [List.eraseDups_cons, List.filter_eq_self.2 hall, ih hl]

/-- One more item is kept if it is not listed before. -/
theorem eraseDups_concat {α : Type} [DecidableEq α] (l : List α) (a : α) :
    (l ++ [a]).eraseDups = if a ∈ l then l.eraseDups else l.eraseDups ++ [a] := by
  rw [List.eraseDups_append]
  by_cases h : a ∈ l
  · have hnone : [a].removeAll l = [] := by simp [List.removeAll, h]
    rw [hnone, if_pos h]
    exact List.append_nil _
  · have hone : [a].removeAll l = [a] := by simp [List.removeAll, h]
    rw [hone, if_neg h]
    rfl

end Scorebook
