import Scorebook.Proofs.Query.Marks
import Scorebook.Proofs.Query.Words

/-!
# The text of a statement, sign by sign

The signs `@` and `?` mark the places of values. If the words of a statement hold neither, then its
text holds no `?` at all, and `@` stands only where a placeholder begins: one for each condition on
a column, in the order of the conditions, and one for the limit at the end.
-/

namespace Scorebook

/-- A text does not hold a sign. -/
def Lacks (sign : Char) (text : String) : Prop := sign ∉ text.toList

instance (sign : Char) (text : String) : Decidable (Lacks sign text) :=
  inferInstanceAs (Decidable (sign ∉ text.toList))

/-- The signs that mark the places of values, by name and by position. -/
def IsPlaceSign (sign : Char) : Prop := sign = '@' ∨ sign = '?'

variable {sign : Char}

/-- What is written for every statement can be checked for both signs. -/
theorem IsPlaceSign.lacks (hs : IsPlaceSign sign) {text : String}
    (h : Lacks '@' text ∧ Lacks '?' text) : Lacks sign text := by
  rcases hs with rfl | rfl
  · exact h.1
  · exact h.2

theorem lacks_append_iff {text more : String} :
    Lacks sign (text ++ more) ↔ Lacks sign text ∧ Lacks sign more := by
  simp only [Lacks, String.toList_append, List.mem_append, not_or]

/-- Numbers are written without such signs. -/
theorem IsPlaceSign.lacks_repr (hs : IsPlaceSign sign) (n : Nat) : Lacks sign n.repr := by
  intro hm
  rw [Nat.toList_repr] at hm
  have hd := Nat.isDigit_of_mem_toDigits (by decide) (by decide) hm
  rcases hs with rfl | rfl <;> exact absurd hd (by decide)

/-- A joined text lacks what its separator and all of its parts lack. -/
theorem lacks_joinWith {between : String} {items : List String} (hb : Lacks sign between)
    (h : ∀ item ∈ items, Lacks sign item) : Lacks sign (Text.joinWith between items) := by
  fun_induction Text.joinWith between items with
  | case1 => exact List.not_mem_nil
  | case2 only => exact h only List.mem_cons_self
  | case3 first second rest ih =>
    have hrest := ih fun item hm => h item (List.mem_cons_of_mem _ hm)
    rw [lacks_append_iff, lacks_append_iff]
    exact ⟨⟨h first List.mem_cons_self, hb⟩, hrest⟩

/-- A clause lacks what its opening, its separator and all of its items lack. -/
theorem lacks_clause {opening between : String} {items : List String} (ho : Lacks sign opening)
    (hb : Lacks sign between) (h : ∀ item ∈ items, Lacks sign item) :
    Lacks sign (Statement.clause opening between items) := by
  unfold Statement.clause
  split
  · exact List.not_mem_nil
  · exact lacks_append_iff.2 ⟨ho, lacks_joinWith hb h⟩

namespace Statement

/-- The part of a statement in front of its conditions. -/
def front (s : Statement) : String :=
  "SELECT\n" ++ Text.joinWith ",\n" (s.outputs.map Output.sql) ++ "\nFROM " ++ s.source

/-- The clause of the groups. -/
def grouped (s : Statement) : String := clause "\nGROUP BY " ", " (s.grouping.map Expr.sql)

/-- The clause of the order. -/
def sorted (s : Statement) : String := clause "\nORDER BY " "" (s.order.toList.map SortKey.sql)

/-- A statement is its front, its conditions, its groups, its order and its limit. -/
theorem sql_eq (s : Statement) :
    s.sql = s.front ++ clause "\nWHERE " "\n  AND " (s.conditions.map Condition.sql) ++
      s.grouped ++ s.sorted ++ "\nLIMIT " ++ Slot.limit.mark := rfl

end Statement

namespace IsPlaceSign

variable (hs : IsPlaceSign sign)

include hs

/-- A text between two that are fixed lacks what it lacks by itself. -/
theorem lacks_wrapped {opening text closing : String}
    (ho : Lacks '@' opening ∧ Lacks '?' opening) (hc : Lacks '@' closing ∧ Lacks '?' closing)
    (h : Lacks sign text) : Lacks sign (opening ++ text ++ closing) := by
  rw [lacks_append_iff, lacks_append_iff]
  exact ⟨⟨hs.lacks ho, h⟩, hs.lacks hc⟩

/-- A list of quoted texts lacks what the texts lack. -/
theorem lacks_quotedList {texts : List String} (h : ∀ text ∈ texts, Lacks sign text) :
    Lacks sign (quotedList texts) := by
  refine lacks_joinWith (hs.lacks (by decide)) fun item hm => ?_
  obtain ⟨text, ht, rfl⟩ := List.mem_map.1 hm
  exact hs.lacks_wrapped (by decide) (by decide) (h text ht)

/-- The text of a test lacks what the texts that it quotes lack. -/
theorem lacks_test {test : PitchTest} (h : ∀ word ∈ test.words, Lacks sign word) :
    Lacks sign test.sql := by
  cases test with
  | outcomeIn outcomes =>
    have hq : Lacks sign (quotedList outcomes) := hs.lacks_quotedList h
    exact hs.lacks_wrapped (by decide) (by decide) hq
  | outcomeNotIn outcomes =>
    have hq : Lacks sign (quotedList outcomes) := hs.lacks_quotedList h
    exact hs.lacks_wrapped (by decide) (by decide) hq
  | outcomeIs outcome =>
    have hq := h outcome List.mem_cons_self
    exact hs.lacks_wrapped (by decide) (by decide) hq
  | measured => exact hs.lacks (by decide)
  | fasterThan speed =>
    unfold PitchTest.sql
    simp only [lacks_append_iff, hs.lacks_repr, and_true]
    exact hs.lacks (by decide)
  | barrelled speed low high =>
    unfold PitchTest.sql
    simp only [lacks_append_iff, hs.lacks_repr, and_true]
    simp (disch := decide) only [hs.lacks, and_self]
  | describedAs descriptions =>
    have hq : Lacks sign (quotedList descriptions) := hs.lacks_quotedList h
    exact hs.lacks_wrapped (by decide) (by decide) hq

/-- The text of weights lacks what their outcomes lack. -/
theorem lacks_weights {weights : List (Outcome × Nat)}
    (h : ∀ outcome ∈ weights.map Prod.fst, Lacks sign outcome) :
    Lacks sign (Text.joinWith " " (weights.map fun (outcome, weight) =>
      "WHEN '" ++ outcome ++ "' THEN " ++ weight.repr)) := by
  refine lacks_joinWith (hs.lacks (by decide)) fun item hm => ?_
  obtain ⟨⟨outcome, weight⟩, hmem, rfl⟩ := List.mem_map.1 hm
  have ho : Lacks sign outcome := h outcome (List.mem_map.2 ⟨_, hmem, rfl⟩)
  simp only [lacks_append_iff, hs.lacks_repr, ho, and_true]
  simp (disch := decide) only [hs.lacks, and_self]

/-- The text of a tally lacks what the texts that it quotes lack. -/
theorem lacks_tally {tally : Tally} (h : ∀ word ∈ tally.words, Lacks sign word) :
    Lacks sign tally.sql := by
  cases tally with
  | all => exact hs.lacks (by decide)
  | passing test =>
    have ht : Lacks sign test.sql := hs.lacks_test h
    exact hs.lacks_wrapped (by decide) (by decide) ht
  | weighing weights => exact hs.lacks_wrapped (by decide) (by decide) (hs.lacks_weights h)

/-- The text of a sum of tallies lacks what the texts that they quote lack. -/
theorem lacks_sum {terms : List Tally}
    (h : ∀ tally ∈ terms, ∀ word ∈ tally.words, Lacks sign word) :
    Lacks sign (Tally.sumSql terms) := by
  refine lacks_joinWith (hs.lacks (by decide)) fun item hm => ?_
  obtain ⟨tally, ht, rfl⟩ := List.mem_map.1 hm
  exact hs.lacks_tally (h tally ht)

/-- The text of a ratio lacks what the texts that it quotes lack. -/
theorem lacks_ratio {ratio : Ratio} (h : ∀ word ∈ ratio.words, Lacks sign word) :
    Lacks sign ratio.sql := by
  have ha : Lacks sign (Tally.sumSql ratio.above) := hs.lacks_sum fun tally ht word hw =>
    h word (List.mem_flatMap.2 ⟨tally, List.mem_append_left _ ht, hw⟩)
  have hb : Lacks sign (Tally.sumSql ratio.below) := hs.lacks_sum fun tally ht word hw =>
    h word (List.mem_flatMap.2 ⟨tally, List.mem_append_right _ ht, hw⟩)
  unfold Ratio.sql
  simp only [lacks_append_iff, ha, hb, and_true]
  simp (disch := decide) only [hs.lacks, and_self]

/-- The text of a statistic lacks what the texts that it quotes lack. -/
theorem lacks_statistic {statistic : Statistic} (h : ∀ word ∈ statistic.words, Lacks sign word) :
    Lacks sign statistic.sql := by
  cases statistic with
  | count tally => exact hs.lacks_tally h
  | rate ratio => exact hs.lacks_ratio h
  | sumOfRates first second =>
    have h₁ := hs.lacks_ratio fun word hw => h word (List.mem_append_left _ hw)
    have h₂ := hs.lacks_ratio fun word hw => h word (List.mem_append_right _ hw)
    unfold Statistic.sql
    simp only [lacks_append_iff, h₁, h₂, and_true]
    simp (disch := decide) only [hs.lacks, and_self]

/-- The text of an expression lacks what its words lack. -/
theorem lacks_expr {expr : Expr} (h : ∀ word ∈ expr.words, Lacks sign word) :
    Lacks sign expr.sql := by
  cases expr with
  | column name => exact h name List.mem_cons_self
  | statistic statistic => exact hs.lacks_statistic h
  | weightedMean col weight =>
    have hc := h col List.mem_cons_self
    have hw := h weight (List.mem_cons_of_mem _ List.mem_cons_self)
    unfold Expr.sql
    simp only [lacks_append_iff, hc, hw, and_true]
    simp (disch := decide) only [hs.lacks, and_self]
  | total col => exact hs.lacks_wrapped (by decide) (by decide) (h col List.mem_cons_self)
  | mean col => exact hs.lacks_wrapped (by decide) (by decide) (h col List.mem_cons_self)
  | monthOf date => exact hs.lacks_wrapped (by decide) (by decide) (h date List.mem_cons_self)

/-- The text of an output lacks what its words lack. -/
theorem lacks_output {output : Output} (h : ∀ word ∈ output.words, Lacks sign word) :
    Lacks sign output.sql := by
  have hname := h output.name List.mem_cons_self
  have hexpr := hs.lacks_expr fun word hw => h word (List.mem_cons_of_mem _ hw)
  unfold Output.sql
  split
  · exact lacks_append_iff.2 ⟨hs.lacks (by decide), hexpr⟩
  · simp only [lacks_append_iff, hname, hexpr, and_true]
    simp (disch := decide) only [hs.lacks, and_self]

/-- The text of a sort key lacks what its words lack. -/
theorem lacks_sortKey {key : SortKey} (h : ∀ word ∈ key.expr.words, Lacks sign word) :
    Lacks sign key.sql := by
  have hexpr := hs.lacks_expr h
  unfold SortKey.sql
  split <;> exact lacks_append_iff.2 ⟨hexpr, hs.lacks (by decide)⟩

/-- The words that are fixed for all catalogues hold no such sign. -/
theorem lacks_fixedWord {word : String} (h : word ∈ fixedWords) : Lacks sign word := by
  have hall : ∀ word ∈ fixedWords, Lacks '@' word ∧ Lacks '?' word := by decide +kernel
  exact hs.lacks (hall word h)

/-- The list of outputs and the table lack what the words of the statement lack. -/
theorem lacks_front {s : Statement} (h : ∀ word ∈ s.words, Lacks sign word) :
    Lacks sign s.front := by
  have hsource := h s.source (by simp [Statement.words])
  have houtputs : Lacks sign (Text.joinWith ",\n" (s.outputs.map Output.sql)) := by
    refine lacks_joinWith (hs.lacks (by decide)) fun item hm => ?_
    obtain ⟨output, ho, rfl⟩ := List.mem_map.1 hm
    refine hs.lacks_output fun word hw => h word ?_
    simp only [Statement.words, List.mem_append, List.mem_flatMap, List.mem_cons]
    exact Or.inl (Or.inl (Or.inl (Or.inr ⟨output, ho, hw⟩)))
  unfold Statement.front
  simp only [lacks_append_iff, hsource, houtputs, and_true]
  simp (disch := decide) only [hs.lacks, and_self]

/-- The groups lack what the words of the statement lack. -/
theorem lacks_grouped {s : Statement} (h : ∀ word ∈ s.words, Lacks sign word) :
    Lacks sign s.grouped := by
  refine lacks_clause (hs.lacks (by decide)) (hs.lacks (by decide)) fun item hm => ?_
  obtain ⟨expr, he, rfl⟩ := List.mem_map.1 hm
  refine hs.lacks_expr fun word hw => h word ?_
  simp only [Statement.words, List.mem_append, List.mem_flatMap]
  exact Or.inl (Or.inr ⟨expr, he, hw⟩)

/-- The order lacks what the words of the statement lack. -/
theorem lacks_sorted {s : Statement} (h : ∀ word ∈ s.words, Lacks sign word) :
    Lacks sign s.sorted := by
  refine lacks_clause (hs.lacks (by decide)) (hs.lacks (by decide)) fun item hm => ?_
  obtain ⟨key, hk, rfl⟩ := List.mem_map.1 hm
  refine hs.lacks_sortKey fun word hw => h word ?_
  simp only [Statement.words, List.mem_append, List.mem_flatMap]
  exact Or.inr ⟨key, hk, hw⟩

end IsPlaceSign

/-- The placeholders of a condition. -/
def Condition.slots : Condition → List Slot
  | .meets slot _ => [slot]
  | _ => []

/-- A condition without placeholders holds neither sign. -/
theorem IsPlaceSign.lacks_condition (hs : IsPlaceSign sign) {condition : Condition}
    (h : condition.slots = []) : Lacks sign condition.sql := by
  cases condition with
  | meets slot column => cases h
  | regularSeason => exact hs.lacks (by decide)
  | endsAppearance => exact hs.lacks (by decide)
  | runners situation => cases situation <;> exact hs.lacks (by decide)
  | score bucket => cases bucket <;> exact hs.lacks (by decide)

/-- No condition holds a question mark beside those in its words. -/
theorem Condition.lacks_questionMark {condition : Condition}
    (h : ∀ word ∈ condition.words, Lacks '?' word) : Lacks '?' condition.sql := by
  have hs : IsPlaceSign '?' := Or.inr rfl
  cases condition with
  | meets slot column =>
    have hc := h column List.mem_cons_self
    have hmark : Lacks '?' slot.mark := by cases slot <;> decide
    cases slot
    all_goals
      unfold sql Slot.condition
      simp only [lacks_append_iff, hc, hmark, and_true]
      simp (disch := decide) only [hs.lacks, and_self]
  | _ => exact hs.lacks_condition rfl

/-- A statement holds no question mark beside those in its words. -/
theorem Statement.lacks_questionMark {s : Statement} (h : ∀ word ∈ s.words, Lacks '?' word) :
    Lacks '?' s.sql := by
  have hs : IsPlaceSign '?' := Or.inr rfl
  have hwhere : Lacks '?' (clause "\nWHERE " "\n  AND " (s.conditions.map Condition.sql)) := by
    refine lacks_clause (by decide) (by decide) fun item hm => ?_
    obtain ⟨condition, hc, rfl⟩ := List.mem_map.1 hm
    refine Condition.lacks_questionMark fun word hw => h word ?_
    simp only [words, List.mem_append, List.mem_flatMap]
    exact Or.inl (Or.inl (Or.inr ⟨condition, hc, hw⟩))
  have hlimit : Lacks '?' "\nLIMIT " := by decide
  have hmark : Lacks '?' Slot.limit.mark := by decide
  rw [sql_eq]
  simp only [lacks_append_iff, hs.lacks_front h, hs.lacks_grouped h, hs.lacks_sorted h, hwhere,
    hlimit, hmark, and_self]

/-- A new line goes on with no name. -/
theorem Piece.endsName_clause {opening between : String} {items : List String} {cs : List Char}
    (h : opening.toList = '\n' :: cs) :
    EndsName (Statement.clause opening between items).toList := by
  unfold Statement.clause
  split
  · exact fun c hc => absurd hc (by simp)
  · rw [String.toList_append, h]
    rintro _ ⟨⟩
    decide

/-- A condition is written around its placeholder. -/
theorem Condition.marked {condition : Condition} (h : ∀ word ∈ condition.words, Lacks '@' word) :
    Marked condition.sql.toList condition.slots := by
  cases condition with
  | meets slot column =>
    have hc : '@' ∉ column.toList := h column List.mem_cons_self
    have hnil : Marked [] [] := .quiet List.not_mem_nil
    have hlist (hslot : slot.isList = true) :
        Marked (column ++ " IN UNNEST(" ++ slot.mark ++ ")").toList [slot] := by
      have hf : '@' ∉ column.toList ++ " IN ".toList := by simp [hc]
      have hm := Marked.spread hf hslot hnil
      simpa [String.toList_append] using hm
    have hequal (hslot : slot.isList = false) :
        Marked (column ++ " = " ++ slot.mark).toList [slot] := by
      have hf : '@' ∉ column.toList ++ " = ".toList := by simp [hc]
      have hlead : LeadsToSingle (column.toList ++ " = ".toList) :=
        Or.inl ⟨column.toList ++ " =".toList, by simp⟩
      have hm := Marked.single hf hlead hslot (fun c hc => absurd hc (by simp)) hnil
      simpa [String.toList_append] using hm
    cases slot with
    | playerName =>
      have hf : '@' ∉ "LOWER(".toList ++ column.toList ++ ") LIKE CONCAT('%', LOWER(".toList := by
        simp [hc]
      have hlead : LeadsToSingle
          ("LOWER(".toList ++ column.toList ++ ") LIKE CONCAT('%', LOWER(".toList) :=
        Or.inr ⟨"LOWER(".toList ++ column.toList ++ ") LIKE CONCAT('%', ".toList, by simp⟩
      have hends : Piece.EndsName "), '%')".toList := by
        rintro _ ⟨⟩
        decide
      have hslot : Slot.playerName.isList = false := rfl
      have hm := Marked.single hf hlead hslot hends (.quiet (by decide))
      have hcond : (Slot.playerName.condition column).toList = "LOWER(".toList ++ column.toList ++
          ") LIKE CONCAT('%', LOWER(".toList ++ Slot.playerName.mark.toList ++
          "), '%')".toList := by
        simp only [Slot.condition, String.toList_append]
      exact hcond ▸ hm
    | innings => exact hlist rfl
    | pitchTypes => exact hlist rfl
    | _ => exact hequal rfl
  | _ => exact .quiet (IsPlaceSign.lacks_condition (Or.inl rfl) rfl)

/-- Joined conditions hold their placeholders one after another. -/
theorem Marked.joinWith {conditions : List Condition}
    (h : ∀ condition ∈ conditions, Marked condition.sql.toList condition.slots) :
    Marked (Text.joinWith "\n  AND " (conditions.map Condition.sql)).toList
      (conditions.flatMap Condition.slots) := by
  induction conditions with
  | nil => exact .quiet List.not_mem_nil
  | cons condition rest ih =>
    have hfirst := h condition List.mem_cons_self
    have hrest := ih fun other hm => h other (List.mem_cons_of_mem _ hm)
    cases rest with
    | nil => simpa [Text.joinWith] using hfirst
    | cons next rest =>
      have hquiet : '@' ∉ "\n  AND ".toList := by decide
      have hmore := hrest.prepend hquiet
      have hends : Piece.EndsName ("\n  AND ".toList ++
          (Text.joinWith "\n  AND " ((next :: rest).map Condition.sql)).toList) := by
        rintro _ ⟨⟩
        decide
      have hall := hfirst.append hmore hends
      simpa only [List.map_cons, Text.joinWith, String.toList_append, List.append_assoc,
        List.flatMap_cons] using hall

/-- A statement holds the placeholders of its conditions, in their order, and then the limit. -/
theorem Statement.marked {s : Statement} (h : ∀ word ∈ s.words, Lacks '@' word) :
    Marked s.sql.toList (s.conditions.flatMap Condition.slots ++ [.limit]) := by
  have hs : IsPlaceSign '@' := Or.inl rfl
  have hwhere : Marked (clause "\nWHERE " "\n  AND " (s.conditions.map Condition.sql)).toList
      (s.conditions.flatMap Condition.slots) := by
    have hj := Marked.joinWith fun condition hc => Condition.marked fun word hw => h word (by
      simp only [words, List.mem_append, List.mem_flatMap]
      exact Or.inl (Or.inl (Or.inr ⟨condition, hc, hw⟩)))
    unfold clause
    split
    · rename_i hempty
      rw [List.isEmpty_iff, List.map_eq_nil_iff] at hempty
      rw [hempty]
      exact .quiet List.not_mem_nil
    · rw [String.toList_append]
      exact hj.prepend (by decide)
  -- Behind the conditions no mark stands but that of the limit, so the groups and the order are
  -- part of its front.
  have hquiet : '@' ∉ s.grouped.toList ++ s.sorted.toList ++ "\nLIMIT ".toList := by
    have hg := hs.lacks_grouped h
    have ho := hs.lacks_sorted h
    simp only [Lacks] at hg ho
    simp [hg, ho]
  have hlead : LeadsToSingle (s.grouped.toList ++ s.sorted.toList ++ "\nLIMIT ".toList) :=
    Or.inl ⟨s.grouped.toList ++ s.sorted.toList ++ "\nLIMIT".toList, by simp⟩
  have hnil : Marked [] [] := .quiet List.not_mem_nil
  have hslot : Slot.limit.isList = false := rfl
  have hlimit := Marked.single hquiet hlead hslot (fun c hc => absurd hc (by simp)) hnil
  have hends : Piece.EndsName (s.grouped.toList ++ (s.sorted.toList ++
      ("\nLIMIT ".toList ++ Slot.limit.mark.toList))) := by
    have hnext : Piece.EndsName ("\nLIMIT ".toList ++ Slot.limit.mark.toList) := by
      rintro _ ⟨⟩
      decide
    exact (Piece.endsName_clause rfl).append ((Piece.endsName_clause rfl).append hnext)
  simp only [List.append_assoc, List.append_nil] at hlimit
  have hall := (hwhere.append hlimit hends).prepend (hs.lacks_front h)
  rw [sql_eq]
  simpa only [String.toList_append, List.append_assoc] using hall

end Scorebook
