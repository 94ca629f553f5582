import Scorebook.Answer.Desk
import Scorebook.Proofs.Intent.Stability

/-!
# What an engine asks of its desk

The desk of an engine is left open, so it is given a conduct: what it makes of a call may depend on
all calls before, and every call is recorded. Without a plan there is no call. With a plan there is
one query, and the table is told in words behind it if there are rows and a narrative is asked for.
Main statement: the response and the calls for every proposal and every conduct, and that the form
of the answer makes no other difference.
-/

namespace Scorebook

/-- A call of an engine on its desk. -/
inductive DeskCall where
  /-- A query is to be run. -/
  | execute (query : Query)
  /-- The table that answers a question is to be told in words. -/
  | narrate (question : String) (table : AnswerTable)

namespace DeskCall

/-- The query that is to be run. -/
def query? : DeskCall → Option Query
  | .execute query => some query
  | .narrate _ _ => none

/-- The question and the table that are to be told in words. -/
def telling? : DeskCall → Option (String × AnswerTable)
  | .execute _ => none
  | .narrate question table => some (question, table)

end DeskCall

/-- The conduct of a desk: what it makes of a call, by the calls before. -/
structure Conduct where
  /-- What comes of a query. -/
  execute : List DeskCall → Query → Execution
  /-- What comes of telling the table that answers a question. -/
  narrate : List DeskCall → String → AnswerTable → Except NarrationError String

/-- A desk of some conduct that records its calls. -/
def Conduct.desk (conduct : Conduct) : Desk (StateM (List DeskCall)) where
  execute query := modifyGet fun calls => (conduct.execute calls query, calls ++ [.execute query])
  narrate question table := modifyGet fun calls =>
    (conduct.narrate calls question table, calls ++ [.narrate question table])

namespace Conduct

variable {α : Type} (conduct : Conduct) (calls : List DeskCall)

/-- What follows a query sees what came of it. -/
theorem execute_bind_run (query : Query) (next : Execution → StateM (List DeskCall) α) :
    (conduct.desk.execute query >>= next).run calls =
      (next (conduct.execute calls query)).run (calls ++ [.execute query]) := rfl

/-- What follows a telling sees what came of it. -/
theorem narrate_bind_run (question : String) (table : AnswerTable)
    (next : Except NarrationError String → StateM (List DeskCall) α) :
    (conduct.desk.narrate question table >>= next).run calls =
      (next (conduct.narrate calls question table)).run (calls ++ [.narrate question table]) := rfl

end Conduct

/-- The response to a question, with the calls that were made for it. -/
def Engine.consult (engine : Engine) (conduct : Conduct) (question : String) (proposal : Json) :
    Response × List DeskCall :=
  (engine.answer conduct.desk question proposal).run []

/-- An object that asks for a form of the answer, whatever it asked for before. -/
def proposalIn (format : OutputFormat) (fields : List (String × Json)) : Json :=
  .obj (insertEntry IntentField.outputFormat.key (.str (Vocabulary.name format)) fields)

/-- An intent with another form of the answer. -/
def Intent.inFormat (intent : Intent) (format : OutputFormat) : Intent := { intent with format }

/-- A question with a plan is settled by a response and the calls for it. -/
structure Engine.Settles (engine : Engine) (conduct : Conduct) (question : String) (plan : Plan)
    (response : Response) (calls : List DeskCall) : Prop where
  /-- One query is run, and it is the one of the plan. -/
  queries : calls.filterMap DeskCall.query? = [plan.query]
  /-- If there are rows and a narrative is asked for, their table is told in words, once. -/
  tells : ∀ result, conduct.execute [] plan.query = .ok result → result.rows ≠ [] →
    plan.intent.format = .narrative →
    calls.filterMap DeskCall.telling? = [(question, engine.catalogue.table result)]
  /-- Otherwise nothing is told in words. -/
  silent : (∀ result, conduct.execute [] plan.query = .ok result → result.rows = []) ∨
    plan.intent.format = .table → calls.filterMap DeskCall.telling? = []
  /-- A query that fails ends in the kind of its failure. -/
  failed : ∀ error, conduct.execute [] plan.query = .error error →
    response = .failed (FailureKind.classify error.message)
  /-- Without rows there is no data. -/
  noData : ∀ result, conduct.execute [] plan.query = .ok result → result.rows = [] →
    response = .noData
  /-- Rows are shown in a table if one is asked for. -/
  shown : ∀ result, conduct.execute [] plan.query = .ok result → result.rows ≠ [] →
    plan.intent.format = .table → response = .table (engine.catalogue.table result)
  /-- If a narrative is asked for, the words that the table is told in are the response. -/
  told : ∀ result text, conduct.execute [] plan.query = .ok result → result.rows ≠ [] →
    plan.intent.format = .narrative →
    conduct.narrate [.execute plan.query] question (engine.catalogue.table result) = .ok text →
    response = .narrative text
  /-- If there are no such words, the table is. -/
  untold : ∀ result error, conduct.execute [] plan.query = .ok result → result.rows ≠ [] →
    plan.intent.format = .narrative →
    conduct.narrate [.execute plan.query] question (engine.catalogue.table result) = .error error →
    response = .table (engine.catalogue.table result)

namespace Engine

variable {engine : Engine} {conduct : Conduct} {question : String} {proposal : Json} {plan : Plan}
  {calls : List DeskCall} {table : AnswerTable}

/-- A table is shown without a call. -/
theorem present_table :
    (present conduct.desk question .table table).run calls = (.table table, calls) := rfl

/-- The words that a table is told in are the response. -/
theorem present_told {text : String} (h : conduct.narrate calls question table = .ok text) :
    (present conduct.desk question .narrative table).run calls =
      (.narrative text, calls ++ [.narrate question table]) := by
  unfold present
  rw [Conduct.narrate_bind_run, h]
  rfl

/-- Without words the table is shown. -/
theorem present_untold {error : NarrationError}
    (h : conduct.narrate calls question table = .error error) :
    (present conduct.desk question .narrative table).run calls =
      (.table table, calls ++ [.narrate question table]) := by
  unfold present
  rw [Conduct.narrate_bind_run, h]
  rfl

/-- No query is run to present a table. -/
theorem present_calls (conduct : Conduct) (question : String) (format : OutputFormat)
    (table : AnswerTable) (calls : List DeskCall) :
    ∃ more, ((present conduct.desk question format table).run calls).2 = calls ++ more ∧
      more.filterMap DeskCall.query? = [] := by
  cases format with
  | table => exact ⟨[], (List.append_nil calls).symm, rfl⟩
  | narrative =>
    refine ⟨[.narrate question table], ?_, rfl⟩
    cases h : conduct.narrate calls question table with
    | ok text => rw [present_told h]
    | error error => rw [present_untold h]

/-- A query that fails is the only call. -/
theorem carryOut_failed {error : WarehouseError}
    (h : conduct.execute [] plan.query = .error error) :
    (engine.carryOut conduct.desk question plan).run [] =
      (.failed (FailureKind.classify error.message), [.execute plan.query]) := by
  unfold carryOut
  rw [Conduct.execute_bind_run, h]
  rfl

/-- So is a query without rows. -/
theorem carryOut_noData {result : ResultSet} (h : conduct.execute [] plan.query = .ok result)
    (hrows : result.rows = []) :
    (engine.carryOut conduct.desk question plan).run [] = (.noData, [.execute plan.query]) := by
  have hempty : result.isEmpty = true := List.isEmpty_iff.2 hrows
  unfold carryOut
  rw [Conduct.execute_bind_run, h]
  simp only [hempty, if_true]
  rfl

/-- Rows are presented in a table. -/
theorem carryOut_rows {result : ResultSet} (h : conduct.execute [] plan.query = .ok result)
    (hrows : result.rows ≠ []) :
    (engine.carryOut conduct.desk question plan).run [] =
      (present conduct.desk question plan.intent.format (engine.catalogue.table result)).run
        [.execute plan.query] := by
  have hempty : result.isEmpty = false := by
    simp [ResultSet.isEmpty, hrows]
  unfold carryOut
  rw [Conduct.execute_bind_run, h]
  simp only [hempty, Bool.false_eq_true, if_false]
  rfl

/-- A proposal that validation turns down is rejected without a call. -/
theorem consult_rejected {reason : Rejection}
    (h : engine.catalogue.validate proposal = .error reason) :
    engine.consult conduct question proposal = (.rejected, []) := by
  have hplan : engine.plan proposal = .error (.rejected reason) := by
    rw [plan, h]
  rw [consult, answer, hplan]
  rfl

/-- An intent without a query is unanswerable without a call. -/
theorem consult_unanswerable {intent : Intent} {obstacle : Obstacle}
    (hvalid : engine.catalogue.validate proposal = .ok intent)
    (h : engine.catalogue.compile intent.strategy engine.settings.defaultLimit intent =
      .error obstacle) :
    engine.consult conduct question proposal = (.unanswerable, []) := by
  have hplan : engine.plan proposal = .error (.unanswerable intent obstacle) := by
    rw [plan, hvalid]
    dsimp only
    rw [planIntent, h]
  rw [consult, answer, hplan]
  rfl

/-- A plan is carried out. -/
theorem consult_of_plan (h : engine.plan proposal = .ok plan) :
    engine.consult conduct question proposal =
      (engine.carryOut conduct.desk question plan).run [] := by
  rw [consult, answer, h]

/-- There is no plan if validation turns the proposal down or the intent has no query. -/
theorem plan_eq_error {error : PlanError} (h : engine.plan proposal = .error error) :
    (∃ reason, engine.catalogue.validate proposal = .error reason) ∨
      ∃ intent obstacle, engine.catalogue.validate proposal = .ok intent ∧
        engine.catalogue.compile intent.strategy engine.settings.defaultLimit intent =
          .error obstacle := by
  cases hvalid : engine.catalogue.validate proposal with
  | error reason => exact Or.inl ⟨reason, rfl⟩
  | ok intent =>
    cases hquery : engine.catalogue.compile intent.strategy engine.settings.defaultLimit intent with
    | error obstacle => exact Or.inr ⟨intent, obstacle, rfl, hquery⟩
    | ok query =>
      have hplan : engine.plan proposal = .ok ⟨intent, intent.strategy, query⟩ :=
        plan_eq_ok_iff.2 ⟨hvalid, rfl, hquery⟩
      rw [hplan] at h
      cases h

/-- A plan settles the question. -/
theorem consult_settles (h : engine.plan proposal = .ok plan) :
    engine.Settles conduct question plan (engine.consult conduct question proposal).1
      (engine.consult conduct question proposal).2 := by
  rw [consult_of_plan h]
  constructor
  case queries =>
    cases hresult : conduct.execute [] plan.query with
    | error error =>
      rw [carryOut_failed hresult]
      rfl
    | ok result =>
      by_cases hrows : result.rows = []
      · rw [carryOut_noData hresult hrows]
        rfl
      · obtain ⟨more, hcalls, hmore⟩ := present_calls conduct question plan.intent.format
          (engine.catalogue.table result) [.execute plan.query]
        rw [carryOut_rows hresult hrows, hcalls, List.filterMap_append, hmore]
        rfl
  case tells =>
    intro result hresult hrows hformat
    rw [carryOut_rows hresult hrows, hformat]
    cases hwords :
      conduct.narrate [.execute plan.query] question (engine.catalogue.table result) with
    | ok text =>
      rw [present_told hwords]
      rfl
    | error error =>
      rw [present_untold hwords]
      rfl
  case silent =>
    intro hsilent
    cases hresult : conduct.execute [] plan.query with
    | error error =>
      rw [carryOut_failed hresult]
      rfl
    | ok result =>
      by_cases hrows : result.rows = []
      · rw [carryOut_noData hresult hrows]
        rfl
      · have hformat := hsilent.resolve_left fun hnone => hrows (hnone result hresult)
        rw [carryOut_rows hresult hrows, hformat]
        rfl
  case failed =>
    intro error hresult
    rw [carryOut_failed hresult]
  case noData =>
    intro result hresult hrows
    rw [carryOut_noData hresult hrows]
  case shown =>
    intro result hresult hrows hformat
    rw [carryOut_rows hresult hrows, hformat, present_table]
  case told =>
    intro result text hresult hrows hformat hwords
    rw [carryOut_rows hresult hrows, hformat, present_told hwords]
  case untold =>
    intro result error hresult hrows hformat hwords
    rw [carryOut_rows hresult hrows, hformat, present_untold hwords]

end Engine

namespace Intent

variable {α : Type} {fields fields' : List (String × Json)} {field : IntentField}

/-- A form of the answer is asked for in its own field, and the other fields stay. -/
theorem present?_insert_format (format : OutputFormat) :
    present? (insertEntry IntentField.outputFormat.key (.str (Vocabulary.name format)) fields)
        field =
      if field = .outputFormat then some (.str (Vocabulary.name format))
      else present? fields field := by
  rw [present?, lookup_insertEntry]
  by_cases h : field = .outputFormat
  · rw [if_pos (congrArg IntentField.key h), if_pos h]
    rfl
  · rw [if_neg fun hkey => h (Vocabulary.name_injective hkey), if_neg h]
    rfl

/-- A check sees nothing of an object but its own field. -/
theorem whenPresent_congr {absent : α} {check : IntentField → Json → Except Rejection α}
    (h : present? fields field = present? fields' field) :
    whenPresent absent check fields field = whenPresent absent check fields' field := by
  rw [whenPresent, whenPresent, h]

end Intent

namespace Catalogue

variable {c : Catalogue} {fields fields' : List (String × Json)} {intent : Intent}
  {format other : OutputFormat}

open Intent in
/-- Fields that differ in the form of the answer are read alike but for that form. -/
theorem Reads.inFormat (h : c.Reads fields intent)
    (hsame : ∀ field, field ≠ .outputFormat → present? fields' field = present? fields field)
    (hformat : present? fields' .outputFormat = some (.str (Vocabulary.name format))) :
    c.Reads fields' (intent.inFormat format) := by
  have hother {α : Type} {absent : α} {check : IntentField → Json → Except Rejection α}
      {field : IntentField} (hne : field ≠ .outputFormat) :
      whenPresent absent check fields' field = whenPresent absent check fields field :=
    whenPresent_congr (hsame field hne)
  exact
    { subjectName := (hother (by decide)).trans h.subjectName
      season := (hother (by decide)).trans h.season
      queryType := (hother (by decide)).trans h.queryType
      split := (hother (by decide)).trans h.split
      metrics := (hother (by decide)).trans h.metrics
      orderBy := (hother (by decide)).trans h.orderBy
      pitcherHand := (hother (by decide)).trans h.pitcherHand
      innings := (hother (by decide)).trans h.innings
      strikes := (hother (by decide)).trans h.strikes
      balls := (hother (by decide)).trans h.balls
      pitchTypes := (hother (by decide)).trans h.pitchTypes
      score := (hother (by decide)).trans h.score
      limit := (hother (by decide)).trans h.limit
      format := formatField_again hformat }

/-- An object that is valid in one form of the answer is valid in the other, and stands for the same
intent but for the form. -/
theorem validate_proposalIn (h : c.validate (proposalIn format fields) = .ok intent) :
    c.validate (proposalIn other fields) = .ok (intent.inFormat other) := by
  apply validate_obj_eq_ok_iff.2
  apply (validate_obj_eq_ok_iff.1 h).inFormat
  · intro field hfield
    rw [Intent.present?_insert_format, Intent.present?_insert_format, if_neg hfield, if_neg hfield]
  · rw [Intent.present?_insert_format, if_pos rfl]

/-- The form is the one that is asked for. -/
theorem format_of_validate (h : c.validate (proposalIn format fields) = .ok intent) :
    intent.format = format := by
  have hpresent : Intent.present? (insertEntry IntentField.outputFormat.key
      (.str (Vocabulary.name format)) fields) .outputFormat =
        some (.str (Vocabulary.name format)) := by
    rw [Intent.present?_insert_format, if_pos rfl]
  have hread := (validate_obj_eq_ok_iff.1 h).format
  rw [Intent.formatField_again hpresent] at hread
  exact (Except.ok.inj hread).symm

/-- The form makes no difference to the query. -/
theorem compile_inFormat (strategy : Strategy) (defaultLimit : UInt32) :
    c.compile strategy defaultLimit (intent.inFormat format) =
      c.compile strategy defaultLimit intent := by
  cases strategy <;> rfl

end Catalogue

namespace Engine

variable {engine : Engine} {question : String} {fields : List (String × Json)}
  {failing other : Conduct}

/-- A narrative that nobody tells is the table. -/
theorem Settles.response_eq {plan : Plan} {response shown : Response} {calls calls' : List DeskCall}
    (htold : engine.Settles failing question plan response calls)
    (hshown : engine.Settles other question { plan with intent := plan.intent.inFormat .table }
      shown calls')
    (hformat : plan.intent.format = .narrative) (hexecute : failing.execute = other.execute)
    (hfails : ∀ calls asked table, ∃ error, failing.narrate calls asked table = .error error) :
    response = shown := by
  cases hresult : failing.execute [] plan.query with
  | error error =>
    have hresult' : other.execute [] plan.query = .error error := hexecute ▸ hresult
    exact (htold.failed error hresult).trans (hshown.failed error hresult').symm
  | ok result =>
    have hresult' : other.execute [] plan.query = .ok result := hexecute ▸ hresult
    by_cases hrows : result.rows = []
    · exact (htold.noData result hresult hrows).trans (hshown.noData result hresult' hrows).symm
    · obtain ⟨error, hwords⟩ :=
        hfails [.execute plan.query] question (engine.catalogue.table result)
      exact (htold.untold result error hresult hrows hformat hwords).trans
        (hshown.shown result hresult' hrows rfl).symm

/-- A narrative that nobody tells is the table, from the same query. -/
theorem consult_formats (hexecute : failing.execute = other.execute)
    (hfails : ∀ calls asked table, ∃ error, failing.narrate calls asked table = .error error) :
    (engine.consult failing question (proposalIn .narrative fields)).1 =
        (engine.consult other question (proposalIn .table fields)).1 ∧
      (engine.consult failing question (proposalIn .narrative fields)).2.filterMap
          DeskCall.query? =
        (engine.consult other question (proposalIn .table fields)).2.filterMap
          DeskCall.query? := by
  cases hvalid : engine.catalogue.validate (proposalIn .narrative fields) with
  | error reason =>
    cases hvalid' : engine.catalogue.validate (proposalIn .table fields) with
    | ok intent =>
      have hboth : engine.catalogue.validate (proposalIn .narrative fields) = .ok _ :=
        Catalogue.validate_proposalIn hvalid'
      rw [hvalid] at hboth
      cases hboth
    | error reason' =>
      rw [consult_rejected hvalid, consult_rejected hvalid']
      exact ⟨rfl, rfl⟩
  | ok intent =>
    have hvalid' : engine.catalogue.validate (proposalIn .table fields) =
        .ok (intent.inFormat .table) := Catalogue.validate_proposalIn hvalid
    have hcompile : engine.catalogue.compile (intent.inFormat .table).strategy
        engine.settings.defaultLimit (intent.inFormat .table) =
          engine.catalogue.compile intent.strategy engine.settings.defaultLimit intent :=
      Catalogue.compile_inFormat _ _
    cases hquery : engine.catalogue.compile intent.strategy engine.settings.defaultLimit intent with
    | error obstacle =>
      rw [consult_unanswerable hvalid hquery,
        consult_unanswerable hvalid' (hcompile.trans hquery)]
      exact ⟨rfl, rfl⟩
    | ok query =>
      have hplan : engine.plan (proposalIn .narrative fields) =
          .ok ⟨intent, intent.strategy, query⟩ :=
        plan_eq_ok_iff.2 ⟨hvalid, rfl, hquery⟩
      have hplan' : engine.plan (proposalIn .table fields) =
          .ok ⟨intent.inFormat .table, intent.strategy, query⟩ :=
        plan_eq_ok_iff.2 ⟨hvalid', rfl, hcompile.trans hquery⟩
      have hformat : intent.format = .narrative := Catalogue.format_of_validate hvalid
      have htold : engine.Settles failing question _ _ _ := consult_settles hplan
      have hshown : engine.Settles other question _ _ _ := consult_settles hplan'
      exact ⟨htold.response_eq hshown hformat hexecute hfails,
        htold.queries.trans hshown.queries.symm⟩

/-- Without a plan, because validation turns the proposal down or no query answers the intent, the
desk is not called. A plan is settled with its query and with what the form of the answer asks for.
And the form makes no other difference: a narrative that nobody tells is the table that would have
been shown, from the same query. -/
theorem consult_calls (engine : Engine) (conduct : Conduct) (question : String)
    (proposal : Json) :
    (∀ error, engine.plan proposal = .error error →
      ((∃ reason, engine.catalogue.validate proposal = .error reason) ∧
        engine.consult conduct question proposal = (.rejected, [])) ∨
      ((∃ intent obstacle, engine.catalogue.validate proposal = .ok intent ∧
          engine.catalogue.compile intent.strategy engine.settings.defaultLimit intent =
            .error obstacle) ∧
        engine.consult conduct question proposal = (.unanswerable, []))) ∧
    (∀ plan, engine.plan proposal = .ok plan →
      engine.Settles conduct question plan (engine.consult conduct question proposal).1
        (engine.consult conduct question proposal).2) ∧
    ∀ (fields : List (String × Json)) (failing : Conduct), failing.execute = conduct.execute →
      (∀ calls asked table, ∃ error, failing.narrate calls asked table = .error error) →
      (engine.consult failing question (proposalIn .narrative fields)).1 =
          (engine.consult conduct question (proposalIn .table fields)).1 ∧
        (engine.consult failing question (proposalIn .narrative fields)).2.filterMap
            DeskCall.query? =
          (engine.consult conduct question (proposalIn .table fields)).2.filterMap
            DeskCall.query? := by
  refine ⟨fun error h => ?_, fun plan h => consult_settles h,
    fun fields failing hexecute hfails => consult_formats hexecute hfails⟩
  rcases plan_eq_error h with ⟨reason, hvalid⟩ | ⟨intent, obstacle, hvalid, hquery⟩
  · exact Or.inl ⟨⟨reason, hvalid⟩, consult_rejected hvalid⟩
  · exact Or.inr ⟨⟨intent, obstacle, hvalid, hquery⟩, consult_unanswerable hvalid hquery⟩

end Engine

/-- The row of a batter with his home runs. -/
def ResultSet.batterHomeRuns : ResultSet :=
  .ofRows ["name", "hr"] [[.str "Batter", .int 30]]

/-- A desk that has this row for every query, and no words for a table. -/
def Conduct.wordless : Conduct where
  execute _ _ := .ok .batterHomeRuns
  narrate _ _ _ := .error .empty

/-- What asks for the home runs of batters. -/
def homeRunFields : List (String × Json) :=
  [("metrics", .arr [.str "homerun"]), ("query_type", .str "season_batting")]

/-- Asked for a narrative, a desk without words gives the table that it gives if asked for one, from
the one query of the plan. -/
theorem Engine.consult_wordless :
    ∃ plan, standard.plan (proposalIn .narrative homeRunFields) = .ok plan ∧
      (standard.consult .wordless "Home runs?" (proposalIn .narrative homeRunFields)).1 =
        .table (Catalogue.builtIn.table .batterHomeRuns) ∧
      (standard.consult .wordless "Home runs?" (proposalIn .table homeRunFields)).1 =
        .table (Catalogue.builtIn.table .batterHomeRuns) ∧
      (standard.consult .wordless "Home runs?" (proposalIn .table homeRunFields)).2.filterMap
        DeskCall.query? = [plan.query] := by
  have hnarrative : (standard.plan (proposalIn .narrative homeRunFields)).toOption.map (fun plan =>
      plan.intent.format) = some .narrative := by
    decide +kernel
  obtain ⟨plan, hplan, hformat⟩ := exists_of_toOption_map hnarrative
  obtain ⟨-, hsettles, hformats⟩ :=
    consult_calls standard .wordless "Home runs?" (proposalIn .narrative homeRunFields)
  have htold := hsettles plan hplan
  have hresponse := htold.untold .batterHomeRuns .empty rfl (List.cons_ne_nil _ _) hformat rfl
  obtain ⟨hsame, hqueries⟩ :=
    hformats homeRunFields .wordless rfl fun _ _ _ => ⟨.empty, rfl⟩
  exact ⟨plan, hplan, hresponse, hsame.symm.trans hresponse,
    hqueries.symm.trans htold.queries⟩

end Scorebook
