import Mathlib.Data.List.Range
import Mathlib.Data.Nat.Find
import Scorebook.Conversation.Extraction

/-!
# The attempts of an extraction

An extraction is run against a script of replies, and what it asks is recorded. A reply either ends
the extraction at once or is sent back with what is wrong; behind the last attempt nothing is sent
back. Main statement: which reply ends the extraction and with what outcome, and the exact messages
of every request, for all scripts.
-/

namespace Scorebook

/-- A model that replies from a script and records what it is asked. -/
def scripted (script : Nat → ModelReply) : Model (StateM (List ChatRequest)) := fun request =>
  modifyGet fun asked => (script asked.length, asked ++ [request])

/-- The first of the replies not yet given answers a request. -/
theorem scripted_bind_run {α : Type} (script : Nat → ModelReply) (request : ChatRequest)
    (next : ModelReply → StateM (List ChatRequest) α) (asked : List ChatRequest) :
    (scripted script request >>= next).run asked =
      (next (script asked.length)).run (asked ++ [request]) := rfl

namespace Catalogue

variable {c : Catalogue} {content question : String} {season : Option Int32}
  {script : Nat → ModelReply}

/-- A reply ends the extraction at once, with an outcome. -/
inductive Ends (c : Catalogue) : ModelReply → Except ExtractionError Json → Prop
  /-- A request without a text in reply is an error. -/
  | noReply (error : ReplyError) : c.Ends (.error error) (.error (.noReply error))
  /-- An object that validation accepts is the intent. -/
  | accepted {content : String} {proposal : Json} {intent : Intent}
    (hobject : Reply.object? content = some proposal) (hvalid : c.validate proposal = .ok intent) :
    c.Ends (.ok content) (.ok proposal)

/-- A reply does not end the extraction, unless it is the last one. -/
def LeavesOpen (c : Catalogue) (reply : ModelReply) : Prop := ∀ outcome, ¬ c.Ends reply outcome

/-- What is said about a text that is sent back, from what validation says about its object: why
that is turned down, or that there is none. -/
def feedback : Option (Except Rejection Intent) → String
  | some (.error reason) =>
    "Error: " ++ reason.message ++ ". Please fix this and return the corrected JSON intent."
  | _ =>
    "Error: your reply was not a valid JSON object. Return ONLY the JSON intent, no markdown "
      ++ "formatting."

/-- What a reply that is sent back adds to the chat: its text as it is, and what is said of it. -/
def exchange (c : Catalogue) : ModelReply → List ChatMessage
  | .error _ => []
  | .ok content =>
    [⟨.assistant, content⟩, ⟨.user, feedback ((Reply.object? content).map c.validate)⟩]

/-- What is made of the object in the last of some replies, although it is turned down, or of there
being none. -/
def lastOutcome (attempts : Nat) (content : String) : Option Json → Except ExtractionError Json
  | some proposal => .ok proposal
  | none => .error (.unparseable attempts content)

/-- The messages of a request behind some replies of a script: the prompt, the question, and the
replies with what is said about them. -/
def chat (c : Catalogue) (question : String) (season : Option Int32) (script : Nat → ModelReply)
    (replies : Nat) : List ChatMessage :=
  ⟨.system, c.prompt season⟩ :: ⟨.user, question⟩ ::
    (List.range replies).flatMap fun i => c.exchange (script i)

/-- One more reply is put behind the messages. -/
theorem chat_succ (replies : Nat) :
    c.chat question season script (replies + 1) =
      c.chat question season script replies ++ c.exchange (script replies) := by
  simp [chat, List.range_succ]

/-- The verdict on a text is that of validation on its object. -/
theorem judge_eq (c : Catalogue) (content : String) :
    c.judge content = (Reply.object? content).elim .unreadable fun proposal =>
      match c.validate proposal with
      | .ok _ => .accepted proposal
      | .error reason => .rejected proposal reason := by
  delta judge
  generalize Reply.object? content = object?
  cases object? <;> rfl

/-- A reply that leaves the extraction open is a text without an object, or with one that validation
turns down. -/
theorem LeavesOpen.exists_text {reply : ModelReply} (h : c.LeavesOpen reply) :
    ∃ content, reply = .ok content ∧
      ((Reply.object? content = none ∧ c.judge content = .unreadable) ∨
        ∃ proposal reason, Reply.object? content = some proposal ∧
          c.validate proposal = .error reason ∧ c.judge content = .rejected proposal reason) := by
  cases reply with
  | error error => exact absurd (.noReply error) (h _)
  | ok content =>
    have hjudge := c.judge_eq content
    refine ⟨content, rfl, ?_⟩
    cases hobject : Reply.object? content with
    | none =>
      rw [hobject] at hjudge
      exact Or.inl ⟨rfl, hjudge⟩
    | some proposal =>
      rw [hobject, Option.elim_some] at hjudge
      cases hvalid : c.validate proposal with
      | ok intent => exact absurd (.accepted hobject hvalid) (h _)
      | error reason =>
        rw [hvalid] at hjudge
        exact Or.inr ⟨proposal, reason, rfl, hvalid, hjudge⟩

end Catalogue

namespace Extractor

section

variable {m : Type → Type} [Monad m] (e : Extractor m) (c : Catalogue)

/-- What follows a text, by its verdict and the attempts that are left. -/
def respond (left : Nat) (messages : List ChatMessage) (content : String) :
    Verdict → m (Except ExtractionError Json)
  | .accepted proposal => pure (.ok proposal)
  | .rejected proposal reason =>
    match left with
    | 0 => pure (.ok proposal)
    | left + 1 => e.converse c left (withFeedback messages content (rejectionFeedback reason))
  | .unreadable =>
    match left with
    | 0 => pure (.error (.unparseable e.attempts content))
    | left + 1 => e.converse c left (withFeedback messages content unreadableFeedback)

/-- One attempt: the model is asked, and the verdict on its reply decides what follows. -/
theorem converse_eq (left : Nat) (messages : List ChatMessage) :
    e.converse c left messages = (e.ask ⟨e.model, messages, 0⟩ >>= fun reply =>
      match reply with
      | .error error => pure (.error (.noReply error))
      | .ok content => e.respond c left messages content (c.judge content)) := by
  cases left <;>
  · delta respond converse
    refine bind_congr fun reply => ?_
    cases reply with
    | error error => rfl
    | ok content =>
      dsimp only
      -- The verdict is left open, or the reader of the text would be evaluated.
      generalize c.judge content = verdict
      cases verdict <;> rfl

end

variable {c : Catalogue} {script : Nat → ModelReply} {model : String} {maxAttempts left i k : Nat}
  {messages : List ChatMessage} {asked : List ChatRequest} {outcome : Except ExtractionError Json}

/-- An extractor that asks the model of a script. -/
def reading (script : Nat → ModelReply) (model : String) (maxAttempts : Nat) :
    Extractor (StateM (List ChatRequest)) :=
  ⟨scripted script, model, maxAttempts⟩

/-- A request without a text in reply ends the extraction. -/
theorem converse_run_of_error {error : ReplyError} (hasked : asked.length = i)
    (hreply : script i = .error error) :
    ((reading script model maxAttempts).converse c left messages).run asked =
      (.error (.noReply error), asked ++ [⟨model, messages, 0⟩]) := by
  rw [converse_eq, reading, scripted_bind_run, hasked, hreply]
  rfl

/-- The verdict on a text decides what follows it. -/
theorem converse_run_of_text {content : String} {verdict : Verdict} (hasked : asked.length = i)
    (hreply : script i = .ok content) (hjudge : c.judge content = verdict) :
    ((reading script model maxAttempts).converse c left messages).run asked =
      ((reading script model maxAttempts).respond c left messages content verdict).run
        (asked ++ [⟨model, messages, 0⟩]) := by
  rw [converse_eq, reading, scripted_bind_run, hasked, hreply]
  dsimp only
  rw [hjudge]

/-- A reply that ends the extraction does so at any attempt. -/
theorem converse_run_of_ends (hasked : asked.length = i) (h : c.Ends (script i) outcome) :
    ((reading script model maxAttempts).converse c left messages).run asked =
      (outcome, asked ++ [⟨model, messages, 0⟩]) := by
  generalize hreply : script i = reply at h
  cases h with
  | noReply error => exact converse_run_of_error hasked hreply
  | @accepted content proposal intent hobject hvalid =>
    have hjudge : c.judge content = .accepted proposal := by
      rw [Catalogue.judge_eq, hobject, Option.elim_some, hvalid]
    rw [converse_run_of_text hasked hreply hjudge]
    rfl

/-- A reply that leaves the extraction open is sent back, if an attempt is left. -/
theorem converse_run_of_leavesOpen (hasked : asked.length = i) (h : c.LeavesOpen (script i)) :
    ((reading script model maxAttempts).converse c (left + 1) messages).run asked =
      ((reading script model maxAttempts).converse c left
        (messages ++ c.exchange (script i))).run (asked ++ [⟨model, messages, 0⟩]) := by
  obtain ⟨content, hreply, ⟨hobject, hjudge⟩ | ⟨proposal, reason, hobject, hinvalid, hjudge⟩⟩ :=
    h.exists_text
  · rw [converse_run_of_text hasked hreply hjudge, hreply, Catalogue.exchange, hobject]
    rfl
  · rw [converse_run_of_text hasked hreply hjudge, hreply, Catalogue.exchange, hobject,
      Option.map_some, hinvalid]
    rfl

/-- Behind the last attempt its object is handed on as it is. -/
theorem converse_run_of_last (hasked : asked.length = i) (h : c.LeavesOpen (script i)) :
    ∃ content, script i = .ok content ∧
      ((reading script model maxAttempts).converse c 0 messages).run asked =
        (Catalogue.lastOutcome (max 1 maxAttempts) content (Reply.object? content),
          asked ++ [⟨model, messages, 0⟩]) := by
  obtain ⟨content, hreply, ⟨hobject, hjudge⟩ | ⟨proposal, reason, hobject, -, hjudge⟩⟩ :=
    h.exists_text
  · refine ⟨content, hreply, ?_⟩
    rw [converse_run_of_text hasked hreply hjudge, hobject]
    rfl
  · refine ⟨content, hreply, ?_⟩
    rw [converse_run_of_text hasked hreply hjudge, hobject]
    rfl

variable {question : String} {season : Option Int32}

/-- The requests with the messages behind ever more replies of a script. -/
def requests (c : Catalogue) (question : String) (season : Option Int32) (model : String)
    (script : Nat → ModelReply) (count : Nat) : List ChatRequest :=
  (List.range count).map fun i => ⟨model, c.chat question season script i, 0⟩

/-- One more request is made behind the others. -/
theorem requests_succ (count : Nat) :
    requests c question season model script (count + 1) =
      requests c question season model script count ++
        [⟨model, c.chat question season script count, 0⟩] := by
  simp [requests, List.range_succ]

/-- As many requests are made as are counted. -/
theorem length_requests (count : Nat) :
    (requests c question season model script count).length = count := by
  simp [requests]

/-- Behind some replies that are sent back, the first one that ends the extraction gives the
outcome, if an attempt is left for it. -/
theorem requests_run_of_ends (hik : i ≤ k) (hk : k ≤ i + left)
    (hopen : ∀ j, i ≤ j → j < k → c.LeavesOpen (script j)) (hends : c.Ends (script k) outcome) :
    ((reading script model maxAttempts).converse c left (c.chat question season script i)).run
        (requests c question season model script i) =
      (outcome, requests c question season model script (k + 1)) := by
  induction left generalizing i with
  | zero =>
    obtain rfl : i = k := Nat.le_antisymm hik hk
    rw [converse_run_of_ends (length_requests i) hends, ← requests_succ]
  | succ left ih =>
    rcases Nat.eq_or_lt_of_le hik with rfl | hlt
    · rw [converse_run_of_ends (length_requests i) hends, ← requests_succ]
    · have hthis : c.LeavesOpen (script i) := hopen i (Nat.le_refl i) hlt
      rw [converse_run_of_leavesOpen (length_requests i) hthis, ← requests_succ,
        ← Catalogue.chat_succ]
      exact ih hlt (by omega) fun j hj hjk => hopen j (by omega) hjk

/-- If all replies are sent back, the last attempt gives the outcome. -/
theorem requests_run_of_open {attempts : Nat} (hleft : i + left + 1 = attempts)
    (hopen : ∀ j, i ≤ j → j < attempts → c.LeavesOpen (script j)) :
    ∃ content, script (attempts - 1) = .ok content ∧
      ((reading script model maxAttempts).converse c left (c.chat question season script i)).run
          (requests c question season model script i) =
        (Catalogue.lastOutcome (max 1 maxAttempts) content (Reply.object? content),
          requests c question season model script attempts) := by
  induction left generalizing i with
  | zero =>
    subst hleft
    have hthis : c.LeavesOpen (script i) := hopen i (Nat.le_refl i) (Nat.lt_succ_self i)
    obtain ⟨content, hreply, hrun⟩ := converse_run_of_last (length_requests i) hthis
    refine ⟨content, hreply, ?_⟩
    rw [hrun, requests_succ]
  | succ left ih =>
    have hthis : c.LeavesOpen (script i) := hopen i (Nat.le_refl i) (by omega)
    rw [converse_run_of_leavesOpen (length_requests i) hthis, ← requests_succ,
      ← Catalogue.chat_succ]
    exact ih (by omega) fun j hj => hopen j (by omega)

/-- If not all replies of some leave the extraction open, there is a first one that ends it. -/
theorem exists_first_end {attempts : Nat} (h : ¬ ∀ k < attempts, c.LeavesOpen (script k)) :
    ∃ k < attempts, ∃ outcome, (∀ j < k, c.LeavesOpen (script j)) ∧ c.Ends (script k) outcome := by
  classical
  have hex : ∃ k, k < attempts ∧ ∃ outcome, c.Ends (script k) outcome := by
    simpa [Catalogue.LeavesOpen] using h
  obtain ⟨hlt, outcome, hends⟩ := Nat.find_spec hex
  refine ⟨Nat.find hex, hlt, outcome, fun j hj other hother => ?_, hends⟩
  exact Nat.find_min hex hj ⟨Nat.lt_trans hj hlt, other, hother⟩

/-- The outcome of an extraction against a script of replies, with the requests that it makes. -/
def extractFrom (c : Catalogue) (question : String) (season : Option Int32) (model : String)
    (maxAttempts : Nat) (script : Nat → ModelReply) :
    Except ExtractionError Json × List ChatRequest :=
  ((reading script model maxAttempts).extract c question season).run []

/-- The first reply that ends the extraction gives the outcome, and nothing is asked after it. -/
theorem extractFrom_of_ends (hk : k < max 1 maxAttempts) (hopen : ∀ j < k, c.LeavesOpen (script j))
    (hends : c.Ends (script k) outcome) :
    extractFrom c question season model maxAttempts script =
      (outcome, requests c question season model script (k + 1)) :=
  have hle : k ≤ 0 + (max 1 maxAttempts - 1) := by omega
  requests_run_of_ends (Nat.zero_le k) hle (fun j _ hj => hopen j hj) hends

/-- If no reply ends the extraction, the last attempt does. -/
theorem extractFrom_of_open (hopen : ∀ k < max 1 maxAttempts, c.LeavesOpen (script k)) :
    ∃ content, script (max 1 maxAttempts - 1) = .ok content ∧
      extractFrom c question season model maxAttempts script =
        (Catalogue.lastOutcome (max 1 maxAttempts) content (Reply.object? content),
          requests c question season model script (max 1 maxAttempts)) := by
  have hleft : 0 + (max 1 maxAttempts - 1) + 1 = max 1 maxAttempts := by omega
  exact requests_run_of_open hleft fun j _ hj => hopen j hj

end Extractor

/-- An extraction against any script of replies stops at the first one that is no text or holds a
valid intent, with that error or that intent. If there is none it makes all its attempts, and hands
on the object in the last reply or fails for want of one. Each request has the prompt, the question,
and all replies so far, each followed by what is said about it. So an intent that is returned before
the last attempt is valid. -/
theorem Extractor.extractFrom_script (c : Catalogue) (question : String) (season : Option Int32)
    (model : String) (maxAttempts : Nat) (script : Nat → ModelReply) :
    (∀ k < max 1 maxAttempts, ∀ outcome, (∀ j < k, c.LeavesOpen (script j)) →
      c.Ends (script k) outcome →
        extractFrom c question season model maxAttempts script =
          (outcome, requests c question season model script (k + 1))) ∧
      ((∀ k < max 1 maxAttempts, c.LeavesOpen (script k)) →
        ∃ content, script (max 1 maxAttempts - 1) = .ok content ∧
          extractFrom c question season model maxAttempts script =
            (Catalogue.lastOutcome (max 1 maxAttempts) content (Reply.object? content),
              requests c question season model script (max 1 maxAttempts))) ∧
      ∀ proposal asked,
        extractFrom c question season model maxAttempts script = (.ok proposal, asked) →
          asked.length < max 1 maxAttempts → ∃ intent, c.validate proposal = .ok intent := by
  refine ⟨fun k hk outcome => extractFrom_of_ends hk, extractFrom_of_open, ?_⟩
  intro proposal asked hrun hlength
  by_cases hopen : ∀ k < max 1 maxAttempts, c.LeavesOpen (script k)
  · obtain ⟨content, -, hall⟩ := extractFrom_of_open hopen
    obtain ⟨-, rfl⟩ := Prod.mk.inj (hrun.symm.trans hall)
    exact absurd (length_requests _) (Nat.ne_of_lt hlength)
  · obtain ⟨k, hk, outcome, hbefore, hends⟩ := exists_first_end hopen
    obtain ⟨rfl, -⟩ := Prod.mk.inj (hrun.symm.trans (extractFrom_of_ends hk hbefore hends))
    generalize script k = reply at hends
    cases hends with
    | accepted hobject hvalid => exact ⟨_, hvalid⟩

end Scorebook
