import Scorebook.Proofs.Answer.Calls

/-!
# What a question that goes wrong gives away

A proposal may be turned down, an intent may have no query, and a query may fail. Rejections,
obstacles and errors of a warehouse carry names, values and texts of the database, but the response
is made of the way in which the question goes wrong and of nothing else. Main statement: questions
that go wrong in one way have one response, whatever else is different between them, and no other
question has it.
-/

namespace Scorebook

/-- A question that is put to an engine, with everything that takes part in the answer. -/
structure Inquiry where
  /-- The engine. -/
  engine : Engine
  /-- The conduct of the desk. -/
  conduct : Conduct
  /-- The question. -/
  question : String
  /-- The intent that is proposed for it. -/
  proposal : Json

/-- A way in which a question goes wrong. -/
inductive Mishap where
  /-- The proposal is turned down. -/
  | rejected
  /-- No query answers the intent. -/
  | unanswerable
  /-- The query fails. -/
  | failed (kind : FailureKind)
  deriving DecidableEq, Repr

namespace Inquiry

/-- The response to a question. -/
def response (i : Inquiry) : Response := (i.engine.consult i.conduct i.question i.proposal).1

/-- A question goes wrong in some way. -/
inductive Meets (i : Inquiry) : Mishap → Prop
  /-- Validation turns the proposal down. -/
  | rejected {reason : Rejection}
    (hvalid : i.engine.catalogue.validate i.proposal = .error reason) : i.Meets .rejected
  /-- The intent is valid, but it has no query. -/
  | unanswerable {intent : Intent} {obstacle : Obstacle}
    (hvalid : i.engine.catalogue.validate i.proposal = .ok intent)
    (hquery : i.engine.catalogue.compile intent.strategy i.engine.settings.defaultLimit intent =
      .error obstacle) : i.Meets .unanswerable
  /-- There is a plan, but its query fails. -/
  | failed {plan : Plan} {error : WarehouseError} (hplan : i.engine.plan i.proposal = .ok plan)
    (hresult : i.conduct.execute [] plan.query = .error error) :
    i.Meets (.failed (FailureKind.classify error.message))

end Inquiry

namespace Mishap

/-- The response to a question that goes wrong. -/
def response : Mishap → Response
  | .rejected => .rejected
  | .unanswerable => .unanswerable
  | .failed kind => .failed kind

/-- The JSON form of that response: a fixed text for each kind. -/
def form : Mishap → Json
  | .rejected =>
    .obj [("status", .str "rejected"),
      ("message", .str "That question can't be answered as asked. Please rephrase it.")]
  | .unanswerable =>
    .obj [("status", .str "unanswerable"),
      ("message", .str "That question can't be answered with the statistics available.")]
  | .failed .timeout =>
    .obj [("status", .str "failed"), ("kind", .str "timeout"),
      ("message",
        .str "The query took too long to run. Try narrowing it to a single season or player.")]
  | .failed .quota =>
    .obj [("status", .str "failed"), ("kind", .str "quota"),
      ("message", .str "The statistics service is busy right now. Please try again shortly.")]
  | .failed .other =>
    .obj [("status", .str "failed"), ("kind", .str "other"),
      ("message", .str "Something went wrong while fetching the statistics.")]

/-- Responses tell the ways to go wrong apart. -/
theorem response_injective : Function.Injective response := by
  intro m m' h
  cases m <;> cases m' <;> cases h <;> rfl

/-- The JSON form has the fixed text. -/
theorem toJson_response (m : Mishap) : m.response.toJson = m.form := by
  cases m with
  | failed kind => cases kind <;> rfl
  | _ => rfl

end Mishap

namespace Inquiry

variable {i : Inquiry} {m : Mishap}

/-- A question that goes wrong has the response for that. -/
theorem Meets.response_eq (h : i.Meets m) : i.response = m.response := by
  cases h with
  | rejected hvalid =>
    rw [response, Engine.consult_rejected hvalid]
    rfl
  | unanswerable hvalid hquery =>
    rw [response, Engine.consult_unanswerable hvalid hquery]
    rfl
  | failed hplan hresult => exact (Engine.consult_settles hplan).failed _ hresult

/-- A question that does not go wrong ends without data, with a table or with a text. -/
theorem meets_or_answered (i : Inquiry) :
    (∃ m, i.Meets m) ∨ i.response = .noData ∨ (∃ table, i.response = .table table) ∨
      ∃ text, i.response = .narrative text := by
  cases hplan : i.engine.plan i.proposal with
  | error error =>
    rcases Engine.plan_eq_error hplan with ⟨reason, hvalid⟩ | ⟨intent, obstacle, hvalid, hquery⟩
    · exact Or.inl ⟨_, .rejected hvalid⟩
    · exact Or.inl ⟨_, .unanswerable hvalid hquery⟩
  | ok plan =>
    have hsettles : i.engine.Settles i.conduct i.question plan i.response _ :=
      Engine.consult_settles hplan
    cases hresult : i.conduct.execute [] plan.query with
    | error error => exact Or.inl ⟨_, .failed hplan hresult⟩
    | ok result =>
      right
      by_cases hrows : result.rows = []
      · exact Or.inl (hsettles.noData result hresult hrows)
      cases hformat : plan.intent.format with
      | table => exact Or.inr (Or.inl ⟨_, hsettles.shown result hresult hrows hformat⟩)
      | narrative =>
        cases hwords : i.conduct.narrate [.execute plan.query] i.question
            (i.engine.catalogue.table result) with
        | ok text =>
          exact Or.inr (Or.inr ⟨text, hsettles.told result text hresult hrows hformat hwords⟩)
        | error error =>
          exact Or.inr (Or.inl ⟨_, hsettles.untold result error hresult hrows hformat hwords⟩)

/-- Only a question that goes wrong has the response for that. -/
theorem meets_iff : i.response = m.response ↔ i.Meets m := by
  constructor
  · intro h
    rcases i.meets_or_answered with ⟨m', hmeets⟩ | hnoData | ⟨table, htable⟩ | ⟨text, htext⟩
    · obtain rfl := Mishap.response_injective (hmeets.response_eq.symm.trans h)
      exact hmeets
    · rw [hnoData] at h
      cases m <;> cases h
    · rw [htable] at h
      cases m <;> cases h
    · rw [htext] at h
      cases m <;> cases h
  · exact Meets.response_eq

/-- Two questions that go wrong in one way have one response, a fixed text: whatever the catalogues,
the proposals, the queries and the errors are, and whoever asks. All questions with this response go
wrong in this way, so it gives away nothing more. -/
theorem response_eq_of_meets (a b : Inquiry) (m : Mishap) (ha : a.Meets m) (hb : b.Meets m) :
    a.response = b.response ∧ a.response.toJson = m.form ∧
      ∀ i : Inquiry, i.response = a.response ↔ i.Meets m := by
  have hresponse : a.response = m.response := ha.response_eq
  refine ⟨hresponse.trans hb.response_eq.symm, ?_, fun i => ?_⟩
  · rw [hresponse, Mishap.toJson_response]
  · rw [hresponse]
    exact meets_iff

end Inquiry

/-- A desk whose queries fail. -/
def Conduct.failing (error : WarehouseError) : Conduct where
  execute _ _ := .error error
  narrate _ _ _ := .error .empty

/-- A question about runners in scoring position whose query takes too long. -/
def Inquiry.slowSeasons : Inquiry where
  engine := .standard
  conduct := .failing .timeout
  question := "Who hits with runners in scoring position?"
  proposal := rispProposal []

/-- Another one, about the ninth inning, over single pitches, with an error of the database. -/
def Inquiry.slowPitches : Inquiry where
  engine := .pitchesOnly
  conduct := .failing (.database "IO Error: read of pitches Timed Out")
  question := "And in the ninth inning?"
  proposal := rispProposal [("inning", .int 9)]

/-- Nothing tells the two apart. -/
theorem Inquiry.slowSeasons_response :
    slowSeasons.response = slowPitches.response ∧
      slowSeasons.response.toJson = (Mishap.failed .timeout).form := by
  have hseasons : (Engine.standard.plan slowSeasons.proposal).toOption.isSome = true := by
    decide +kernel
  have hpitches : (Engine.pitchesOnly.plan slowPitches.proposal).toOption.isSome = true := by
    decide +kernel
  have hkind : FailureKind.classify (WarehouseError.message .timeout) = .timeout := by
    decide +kernel
  have hkind' : FailureKind.classify
      (WarehouseError.message (.database "IO Error: read of pitches Timed Out")) = .timeout := by
    decide +kernel
  obtain ⟨plan, hplan⟩ := exists_of_toOption_isSome hseasons
  obtain ⟨plan', hplan'⟩ := exists_of_toOption_isSome hpitches
  have hmeets : slowSeasons.Meets (.failed .timeout) := hkind ▸ .failed hplan rfl
  have hmeets' : slowPitches.Meets (.failed .timeout) := hkind' ▸ .failed hplan' rfl
  obtain ⟨hsame, hform, -⟩ :=
    response_eq_of_meets slowSeasons slowPitches (.failed .timeout) hmeets hmeets'
  exact ⟨hsame, hform⟩

end Scorebook
