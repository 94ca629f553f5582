import Scorebook.Proofs.Answer.Failures
import Scorebook.Proofs.Text.LowerCase

/-!
# The kind of a failure behind its wrapping

A failed query is sorted by the words in the text of its error, and this text has an opening in
front of the message of the warehouse. No word occurs in an opening or reaches across its end, so
the message alone decides. Main statement: the response to a failed query tells the kind of the bare
message, in whatever case the letters of the message are and however its other characters are
lowered.
-/

namespace Scorebook

namespace WarehouseError

/-- An error passes on a message of the warehouse. -/
inductive Carries (message : String) : WarehouseError → Prop
  /-- As an error of the database. -/
  | database : Carries message (.database message)
  /-- As an error of the binding. -/
  | binding : Carries message (.binding message)

/-- The openings in front of messages, without the colon and the blank. -/
def openings : List String := ["Database error", "Parameter binding failed"]

variable {error : WarehouseError} {message : String}

/-- The text of an error that passes on a message is an opening, a colon, a blank and the message.
-/
theorem Carries.exists_opening (h : error.Carries message) :
    ∃ opening ∈ openings,
      error.message.toList = opening.toList ++ ':' :: ' ' :: message.toList := by
  have hdatabase : "Database error: ".toList = "Database error".toList ++ [':', ' '] := by decide
  have hbinding : "Parameter binding failed: ".toList =
      "Parameter binding failed".toList ++ [':', ' '] := by decide
  cases h with
  | database =>
    refine ⟨"Database error", List.mem_cons_self, ?_⟩
    change ("Database error: " ++ message).toList = _
    rw [String.toList_append, hdatabase, List.append_assoc, List.cons_append, List.cons_append,
      List.nil_append]
  | binding =>
    refine ⟨"Parameter binding failed", List.mem_cons_of_mem _ List.mem_cons_self, ?_⟩
    change ("Parameter binding failed: " ++ message).toList = _
    rw [String.toList_append, hbinding, List.append_assoc, List.cons_append, List.cons_append,
      List.nil_append]

end WarehouseError

namespace FailureKind

variable {text text' : List Char} {kind : FailureKind} {message : String} {error : WarehouseError}

/-- A text holds one of some words. -/
def HoldsAny (chosen : List String) (text : List Char) : Prop :=
  ∃ word ∈ chosen, word.toList <:+: text

/-- The test of a failure finds whether a text holds one of some words. -/
theorem any_occursIn_iff {chosen : List String} :
    (chosen.any fun word => Text.occursIn word.toList text) = true ↔ HoldsAny chosen text := by
  simp only [List.any_eq_true, Text.occursIn_iff, HoldsAny]

/-- A text is one of a failure of some kind. -/
def Fits (text : List Char) : FailureKind → Prop
  | .timeout => HoldsAny timeoutWords text
  | .quota => ¬HoldsAny timeoutWords text ∧ HoldsAny quotaWords text
  | .other => ¬HoldsAny timeoutWords text ∧ ¬HoldsAny quotaWords text

/-- The words that failures are sorted by. -/
def words : List String := timeoutWords ++ quotaWords

/-- Texts with the same words of a failure are of the same kinds. -/
theorem fits_congr (h : ∀ word ∈ words, word.toList <:+: text ↔ word.toList <:+: text') :
    kind.Fits text ↔ kind.Fits text' := by
  have hany {chosen : List String} (hchosen : chosen ⊆ words) :
      HoldsAny chosen text ↔ HoldsAny chosen text' :=
    exists_congr fun word => and_congr_right fun hword => h word (hchosen hword)
  have htimeout := hany (List.subset_append_left timeoutWords quotaWords)
  have hquota := hany (List.subset_append_right timeoutWords quotaWords)
  cases kind <;> simp only [Fits, htimeout, hquota]

/-- No text is of two kinds. -/
theorem Fits.unique {kind' : FailureKind} (h : kind.Fits text) (h' : kind'.Fits text) :
    kind = kind' := by
  cases kind <;> cases kind' <;> simp_all [Fits]

/-- The lower-case form of a text is of the kind that the text is sorted into. -/
theorem fits_classify (message : String) :
    (classify message).Fits (Text.lower message.toList) := by
  unfold classify
  dsimp only
  split
  · rename_i htimeout
    exact any_occursIn_iff.1 htimeout
  split
  · rename_i htimeout hquota
    exact ⟨mt any_occursIn_iff.2 htimeout, any_occursIn_iff.1 hquota⟩
  · rename_i htimeout hquota
    exact ⟨mt any_occursIn_iff.2 htimeout, mt any_occursIn_iff.2 hquota⟩

/-- The words are basic Latin. -/
theorem isLatin_words : ∀ word ∈ words, Text.IsLatin word.toList := by
  decide

/-- No word has a colon, and none starts with a blank. -/
theorem words_bounds : ∀ word ∈ words, ':' ∉ word.toList ∧ word.toList.head? ≠ some ' ' := by
  decide

/-- No word occurs in an opening. -/
theorem openings_free : ∀ word ∈ words, ∀ opening ∈ WarehouseError.openings,
    Text.occursIn word.toList (Text.lower opening.toList) = false := by
  decide

/-- Every lower-case form of a text is of the kind that the text is sorted into, and of no other. -/
theorem classify_eq_iff (h : Text.Lowering message.toList text) :
    classify message = kind ↔ kind.Fits text := by
  have hfits : (classify message).Fits text :=
    (fits_congr fun word hword => h.sameWords.inside word.toList (isLatin_words word hword)).2
      (fits_classify message)
  constructor
  · rintro rfl
    exact hfits
  · exact hfits.unique

/-- The words in the text of an error are those in the message that it passes on. -/
theorem infix_lower_carries (h : error.Carries message) {word : String} (hword : word ∈ words) :
    word.toList <:+: Text.lower error.message.toList ↔
      word.toList <:+: Text.lower message.toList := by
  obtain ⟨opening, hopening, htext⟩ := h.exists_opening
  obtain ⟨hcolon, hblank⟩ := words_bounds word hword
  have hlower : Text.lower error.message.toList =
      Text.lower opening.toList ++ ':' :: ' ' :: Text.lower message.toList := by
    rw [htext, Text.lower, List.flatMap_append]
    rfl
  have hfree : ¬word.toList <:+: Text.lower opening.toList := by
    rw [← Text.occursIn_iff, openings_free word hword opening hopening]
    exact Bool.false_ne_true
  rw [hlower, Text.infix_append_cons_iff hcolon, Text.infix_cons_iff_of_head? hblank,
    or_iff_right hfree]

/-- The wrapping of a message makes no difference to its kind. -/
theorem classify_carries (h : error.Carries message) :
    classify error.message = classify message :=
  (classify_eq_iff (Text.lowering_lower _)).2
    ((fits_congr fun _ hword => infix_lower_carries h hword).2 (fits_classify message))

/-- Neither does the case of basic Latin letters. -/
theorem classify_congr {message' : String}
    (h : message'.toList.map Char.toLower = message.toList.map Char.toLower) :
    classify message' = classify message := by
  unfold classify
  rw [← Text.lower_map_toLower message'.toList, h, Text.lower_map_toLower]

end FailureKind

namespace Inquiry

/-- Where a query fails and the error passes on a message, the response tells the kind of the bare
message. The case of basic Latin letters makes no difference to this kind, and it is the one kind
that each lower-case form fits, of the message and of the text of either error. -/
theorem response_of_carries (message : String) :
    (∀ (i : Inquiry) (plan : Plan) (error : WarehouseError), i.engine.plan i.proposal = .ok plan →
      i.conduct.execute [] plan.query = .error error → error.Carries message →
      i.response = .failed (FailureKind.classify message)) ∧
    (∀ message' : String, message'.toList.map Char.toLower = message.toList.map Char.toLower →
      FailureKind.classify message' = FailureKind.classify message) ∧
    ∀ whole ∈ [message, WarehouseError.message (.database message),
      WarehouseError.message (.binding message)], ∀ text, Text.Lowering whole.toList text →
      ∀ kind, FailureKind.classify message = kind ↔ kind.Fits text := by
  refine ⟨fun i plan error hplan hfails hcarries => ?_, fun message' => FailureKind.classify_congr,
    fun whole hwhole text hlowering kind => ?_⟩
  · rw [← FailureKind.classify_carries hcarries]
    exact (Engine.consult_settles hplan).failed error hfails
  · have hsame : FailureKind.classify whole = FailureKind.classify message := by
      simp only [List.mem_cons, List.not_mem_nil, or_false] at hwhole
      rcases hwhole with rfl | rfl | rfl
      · rfl
      · exact FailureKind.classify_carries .database
      · exact FailureKind.classify_carries .binding
    rw [← hsame]
    exact FailureKind.classify_eq_iff hlowering

/-- A question about the ninth inning whose values could not be bound. -/
def unbound (message : String) : Inquiry where
  engine := .pitchesOnly
  conduct := .failing (.binding message)
  question := "Who hits in the ninth inning?"
  proposal := rispProposal [("inning", .int 9)]

/-- A capital sigma becomes another small letter at the end of a word than elsewhere, and the kind
of the failure is the same. -/
theorem unbound_response :
    (unbound "Σ: Quota").response = .failed .quota ∧ FailureKind.classify "Σ: qUOTA" = .quota ∧
      FailureKind.Fits "parameter binding failed: ς: quota".toList .quota := by
  have hplans : (Engine.pitchesOnly.plan (unbound "").proposal).toOption.isSome = true := by
    decide +kernel
  have hkind : FailureKind.classify "Σ: Quota" = .quota := by decide
  have hsigma : Text.LowersTo 'Σ' ['ς'] :=
    .foreign (by decide) (by decide) (by decide) (Text.isForeign_singleton (by decide))
  have hlowering : Text.Lowering (WarehouseError.message (.binding "Σ: Quota")).toList
      "parameter binding failed: ς: quota".toList :=
    (Text.lowering_lower "Parameter binding failed: ".toList).append
      (.cons hsigma (Text.lowering_lower ": Quota".toList))
  obtain ⟨plan, hplan⟩ := exists_of_toOption_isSome hplans
  obtain ⟨hresponse, hcase, hforms⟩ := response_of_carries "Σ: Quota"
  refine ⟨?_, (hcase "Σ: qUOTA" (by decide)).trans hkind, ?_⟩
  · rw [← hkind]
    exact hresponse (unbound "Σ: Quota") plan _ hplan rfl .binding
  · exact (hforms _ (by simp) _ hlowering .quota).1 hkind

end Inquiry

end Scorebook
