import CapsuleLoom.Proofs.Assistant.GivenUp
import CapsuleLoom.Proofs.Metrics.Counter
import CapsuleLoom.Proofs.Service.Completion
import CapsuleLoom.Service.Bridge

/-!
# How questions to a model end

A question for a project document ends with a document or with an error, and it is counted under
its endpoint and its outcome.  Only what the service did not foresee is not counted, and of what a
model can say this is an integer with more digits than are converted, or a list or an object inside
so many others that the stack has no room for it.

## Main definitions

* `replyDocument`, `Service.answer` : the document that a question brings, or why there is none.
* `Board.OneMoreAsked` : one more question is counted, and nothing else.
* `AskEnds` : the ways in which a question can end.

## Main results

* `askProject_spec` : a question comes to `Service.answer` and is counted by its outcome.
* `askProject_ends` : every question ends in one of these ways.
-/

namespace CapsuleLoom

/-! ### What a question comes to -/

/-- The project document of a reply. -/
def replyDocument (room : Nat) (reply : String) : Except AskError Fields :=
  match readReplyWithin room reply with
  | .error cause => .error (.ofReply reply cause)
  | .ok fields => if (projectShape? fields).isSome then .ok fields else .error (.misshapen fields)

/-- The document that the next question brings, or why there is none. -/
def Service.answer (service : Service) : Except AskError Fields :=
  match service.completion with
  | .error error => .error (.ofComplete error)
  | .ok reply => replyDocument service.room reply

/-- The name under which an answer is counted; some answers are not counted. -/
def outcomeName? : Except AskError Fields → Option String
  | .ok _ => some "ok"
  | .error error => error.outcome?

/-- Counts an answer. -/
def Board.countAnswer (endpoint : String) (answer : Except AskError Fields) (board : Board) :
    Board :=
  match outcomeName? answer with
  | some outcome => board.countAsked endpoint outcome
  | none => board

/-- The service after it counted an answer. -/
def Service.countAnswer (endpoint : String) (answer : Except AskError Fields) (service : Service) :
    Service :=
  { service with board := service.board.countAnswer endpoint answer }

theorem Service.OnlyTalked.countAnswer {before after : Service} (htalked : before.OnlyTalked after)
    (endpoint : String) (answer : Except AskError Fields) :
    (before.countAnswer endpoint answer).OnlyTalked (after.countAnswer endpoint answer) where
  settings := htalked.settings
  board := congrArg (Board.countAnswer endpoint answer) htalked.board
  clock := htalked.clock
  now := htalked.now
  room := htalked.room

section Ask

variable (prompt : String) (targets? : Option (List String)) (service : Service)

/-- The document of a reply comes with its name and its screens. -/
theorem askDocument_spec :
    ∃ outcome after, askDocument service.modelClient prompt targets? service = (outcome, after) ∧
      outcome.map Prod.fst = service.answer ∧ service.OnlyTalked after := by
  obtain ⟨after, hcomplete, htalked⟩ :=
    complete_spec (promptMessages prompt targets?) .open service
  unfold askDocument Service.answer
  cases hcompletion : service.completion with
  | error error =>
    rw [hcompletion] at hcomplete
    exact ⟨_, after, Steps.bind_error (Run.mapError_of_error _ hcomplete) _, rfl, htalked⟩
  | ok reply =>
    rw [hcompletion] at hcomplete
    rw [Steps.bind_ok (Run.mapError_of_ok _ hcomplete)]
    have hget : (get : Run AskError Service) after = (.ok after, after) := rfl
    rw [Steps.bind_ok hget, htalked.room]
    dsimp only [replyDocument]
    cases hread : readReplyWithin service.room reply with
    | error cause =>
      rw [Steps.bind_error (Run.ofExcept_mapError_of_error _ rfl)]
      exact ⟨_, after, rfl, rfl, htalked⟩
    | ok fields =>
      rw [Steps.bind_ok (Run.ofExcept_mapError_of_ok _ rfl)]
      dsimp only
      cases projectShape? fields with
      | none => exact ⟨_, after, rfl, rfl, htalked⟩
      | some shape => exact ⟨_, after, rfl, rfl, htalked⟩

theorem reportError_spec (endpoint : String) (error : AskError) :
    ∃ after, reportError endpoint error service = (.ok (), after) ∧
      (service.countAnswer endpoint (.error error)).OnlyTalked after := by
  unfold reportError Service.countAnswer Board.countAnswer
  dsimp only [outcomeName?]
  cases error.outcome? with
  | none => exact ⟨service, rfl, .refl service⟩
  | some outcome => exact ⟨_, rfl, rfl, rfl, rfl, rfl, rfl⟩

/-- A question comes to `Service.answer`, with the defaults filled in, and is counted by its
outcome. -/
theorem askProject_spec :
    ∃ after, askProject prompt targets? service =
        (service.answer.map (fillDefaults service.settings.defaultThemePrimary targets?), after) ∧
      (service.countAnswer (endpointName targets?) service.answer).OnlyTalked after := by
  obtain ⟨ready, hclient, hready, hsame, hscript⟩ := theClient_spec AskError service
  obtain ⟨outcome, asked, hask, hanswer, htalked⟩ := askDocument_spec prompt targets? ready
  -- Building the client takes nothing off the script.
  have hcompletion : ready.completion = service.completion := by
    rw [Service.completion, Service.nextOutcome, hsame, hscript, hready.settings]
    rfl
  have hattempt : (Run.attempt (askDocument service.modelClient prompt targets?) : Run AskError _)
      ready = (.ok outcome, asked) := by
    rw [Run.attempt_apply, ← hsame, hask]
  have hsameAnswer : ready.answer = service.answer := by
    rw [Service.answer, hcompletion, hready.room, Service.answer]
  rw [hsameAnswer] at hanswer
  have hquiet := (hready.trans htalked).countAnswer (endpointName targets?) service.answer
  rw [← hanswer] at hquiet ⊢
  unfold askProject
  rw [Steps.bind_ok hclient, Steps.bind_ok hattempt]
  cases outcome with
  | error error =>
    obtain ⟨after, hreport, hreported⟩ := reportError_spec asked (endpointName targets?) error
    exact ⟨after, Steps.bind_ok hreport _, hquiet.trans hreported⟩
  | ok found =>
    rw [← (hready.trans htalked).settings]
    exact ⟨_, rfl, hquiet.trans ⟨rfl, rfl, rfl, rfl, rfl⟩⟩

end Ask

/-! ### The ways in which a question can end -/

/-- One more question is counted under an endpoint and an outcome, and nothing else. -/
structure Board.OneMoreAsked (endpoint outcome : String) (before after : Board) : Prop where
  /-- The other metrics stay. -/
  same : after = { before with asked := after.asked }
  /-- The question is counted once. -/
  asked : before.asked.OneMore [("endpoint", endpoint), ("outcome", outcome)] after.asked

theorem Board.oneMoreAsked_countAsked (endpoint outcome : String) (board : Board) :
    board.OneMoreAsked endpoint outcome (board.countAsked endpoint outcome) :=
  ⟨rfl, board.asked.oneMore_inc _⟩

/-- The ways in which a question can end.  All but the last two are counted once. -/
inductive AskEnds (endpoint : String) (targets? : Option (List String)) (service : Service)
    (run : Except AskError Fields × Service) : Prop
  /-- The model cannot be asked. -/
  | unavailable (hclient : service.modelClient.enabled = false)
      (hrun : run.1 = .error .unavailable)
      (hcounted : service.board.OneMoreAsked endpoint "AIUnavailable" run.2.board)
  /-- The model's side fails at the last attempt. -/
  | failed (hclient : service.modelClient.enabled = true) (fault : ModelFault)
      (hfault : service.nextOutcome = .failed fault)
      (hrun : run.1 = .error (.modelFailed "AI generation failed" fault.details))
      (hcounted : service.board.OneMoreAsked endpoint "AIUpstreamError" run.2.board)
  /-- The model replies without a text. -/
  | silent (hclient : service.modelClient.enabled = true) (contents : List (Option String))
      (hcontents : service.nextOutcome = .reply contents) (htext : replyText? contents = none)
      (hrun : run.1 = .error (.modelFailed "No content from AI" "No content from AI"))
      (hcounted : service.board.OneMoreAsked endpoint "AIUpstreamError" run.2.board)
  /-- The reply holds no document, and it comes with the error as it is. -/
  | unreadable (reply : String) (hreply : service.Replies reply) (cause : ReplyError)
      (hread : readReplyWithin service.room reply = .error cause)
      (hlong : ∀ digits, cause ≠ .integerTooLong digits)
      (hdeep : ∀ compound, cause ≠ .nestedTooDeep compound)
      (hrun : run.1 = .error (.unreadable cause reply))
      (hcounted : service.board.OneMoreAsked endpoint "AIParseError" run.2.board)
  /-- The document of the reply is no project document. -/
  | misshapen (reply : String) (hreply : service.Replies reply) (fields : Fields)
      (hread : readReplyWithin service.room reply = .ok fields)
      (hshape : projectShape? fields = none) (hrun : run.1 = .error (.misshapen fields))
      (hcounted : service.board.OneMoreAsked endpoint "AIStructureError" run.2.board)
  /-- The reply holds a project document. -/
  | answered (reply : String) (hreply : service.Replies reply) (fields : Fields)
      (hread : readReplyWithin service.room reply = .ok fields)
      (hshape : (projectShape? fields).isSome = true)
      (hrun : run.1 = .ok (fillDefaults service.settings.defaultThemePrimary targets? fields))
      (hcounted : service.board.OneMoreAsked endpoint "ok" run.2.board)
  /-- The reply has an integer with more digits than are converted, and nothing is counted. -/
  | tooLong (reply : String) (hreply : service.Replies reply) (digits : Nat)
      (hread : readReplyWithin service.room reply = .error (.integerTooLong digits))
      (hlong : HasLongRun reply.toList)
      (hrun : run.1 = .error (.integerTooLong digits)) (hboard : run.2.board = service.board)
  /-- The reply has a compound that lies deeper than there is room for, and nothing is counted. -/
  | tooDeep (reply : String) (hreply : service.Replies reply) (compound : Compound)
      (hread : readReplyWithin service.room reply = .error (.nestedTooDeep compound))
      (hdeep : ∃ part, part <:+: reply.toList ∧ NestsBeyond service.room part)
      (hrun : run.1 = .error (.crashed ("maximum recursion depth exceeded while decoding a JSON " ++
        compound.name ++ " from a unicode string")))
      (hboard : run.2.board = service.board)

/-- How a question with a reply ends. -/
theorem askEnds_of_replies {endpoint : String} {targets? : Option (List String)}
    {service : Service} {run : Except AskError Fields × Service} {reply : String}
    (hreply : service.Replies reply)
    (houtcome : run.1 =
      service.answer.map (fillDefaults service.settings.defaultThemePrimary targets?))
    (hboard : run.2.board = service.board.countAnswer endpoint service.answer) :
    AskEnds endpoint targets? service run := by
  rw [Service.answer, Service.completion_eq_ok_iff.mpr hreply] at houtcome hboard
  dsimp only [replyDocument] at houtcome hboard
  cases hread : readReplyWithin service.room reply with
  | error cause =>
    rw [hread] at houtcome hboard
    cases cause with
    | integerTooLong digits =>
      exact .tooLong reply hreply digits hread (hasLongRun_of_readReply hread) houtcome hboard
    | nestedTooDeep compound =>
      refine .tooDeep reply hreply compound hread (nestsBeyond_of_readReply hread) ?_ hboard
      rw [houtcome]
      cases compound <;> rfl
    | malformed | notObject =>
      exact .unreadable reply hreply _ hread (fun _ => ReplyError.noConfusion)
        (fun _ => ReplyError.noConfusion) houtcome (hboard ▸ Board.oneMoreAsked_countAsked _ _ _)
  | ok fields =>
    rw [hread] at houtcome hboard
    dsimp only at houtcome hboard
    cases hshape : projectShape? fields with
    | none =>
      rw [hshape] at houtcome hboard
      exact .misshapen reply hreply fields hread hshape houtcome
        (hboard ▸ Board.oneMoreAsked_countAsked _ _ _)
    | some shape =>
      rw [hshape] at houtcome hboard
      exact .answered reply hreply fields hread (hshape ▸ rfl) houtcome
        (hboard ▸ Board.oneMoreAsked_countAsked _ _ _)

/-- Questions are counted once.  Where the model's side only reports failures and replies, every
question ends with a document or with one of four errors, and is counted exactly once under its
outcome and its endpoint, which is `build` if there are targets and `generate` if there are none; a
reply that cannot be read comes with the error as it is.  The only exceptions are a reply with too
long an integer and a reply that nests too deep, which are not counted. -/
theorem askProject_ends (prompt : String) (targets? : Option (List String)) (service : Service)
    (hscript : ∀ message, .crashed message ∉ service.script) :
    AskEnds (if targets?.isSome then "build" else "generate") targets? service
      (askProject prompt targets? service) := by
  obtain ⟨after, hrun, hafter⟩ := askProject_spec prompt targets? service
  have hboard : after.board = service.board.countAnswer (endpointName targets?) service.answer :=
    hafter.board
  rw [hrun]
  cases hclient : service.modelClient.enabled with
  | false =>
    have hanswer : service.answer = .error .unavailable := by
      rw [Service.answer, Service.completion, hclient]
      rfl
    rw [hanswer] at hboard ⊢
    exact .unavailable hclient rfl (hboard ▸ Board.oneMoreAsked_countAsked _ _ _)
  | true =>
    cases hnext : service.nextOutcome with
    -- An outcome that counts and is no failure stands in the script.
    | crashed message => exact absurd (lastOutcome_mem hnext rfl) (hscript message)
    | failed fault =>
      have hanswer : service.answer =
          .error (.modelFailed "AI generation failed" fault.details) := by
        rw [Service.answer, Service.completion, if_pos hclient, hnext]
        rfl
      rw [hanswer] at hboard ⊢
      exact .failed hclient fault hnext rfl (hboard ▸ Board.oneMoreAsked_countAsked _ _ _)
    | reply contents =>
      have hcompletion : service.completion = Outcome.completion (.reply contents) := by
        rw [Service.completion, if_pos hclient, hnext]
      dsimp only [Outcome.completion] at hcompletion
      cases htext : replyText? contents with
      | none =>
        have hanswer : service.answer =
            .error (.modelFailed "No content from AI" "No content from AI") := by
          rw [Service.answer, hcompletion, htext]
          rfl
        rw [hanswer] at hboard ⊢
        exact .silent hclient contents hnext htext rfl
          (hboard ▸ Board.oneMoreAsked_countAsked _ _ _)
      | some reply =>
        rw [htext] at hcompletion
        exact askEnds_of_replies (Service.completion_eq_ok_iff.mp hcompletion) rfl hboard

/-- A question that is answered with what is given up fails, and nothing is counted. -/
theorem askProject_of_givenUp {service : Service} {reply : String} (hreply : service.Replies reply)
    {cause : ReplyError} (hread : readReplyWithin service.room reply = .error cause)
    (hcause : (AskError.ofReply reply cause).outcome? = none) (prompt : String)
    (targets? : Option (List String)) :
    (askProject prompt targets? service).1 = .error (.ofReply reply cause) ∧
      (askProject prompt targets? service).2.board = service.board := by
  obtain ⟨after, hrun, hafter⟩ := askProject_spec prompt targets? service
  have hanswer : service.answer = .error (.ofReply reply cause) := by
    rw [Service.answer, Service.completion_eq_ok_iff.mpr hreply]
    dsimp only [replyDocument]
    rw [hread]
  have hboard : after.board = service.board := by
    rw [hafter.board, hanswer]
    dsimp only [Service.countAnswer, Board.countAnswer, outcomeName?]
    rw [hcause]
  rw [hrun, hanswer]
  exact ⟨rfl, hboard⟩

/-- A service that asks the model twice, to which some outcomes will come back. -/
def Service.scripted (script : List Outcome) : Service :=
  .new { Settings.standard with apiKey := "key", maxAttempts := 2 } (.new Clock.defaultTick)
    script 0

/-- A service whose model fails first and then replies without a document. -/
def Service.chatty : Service := .scripted [.failed .timeout, .reply [some "Sorry!"]]

/-- A service whose model replies with an integer that is too long. -/
def Service.boastful : Service := .scripted [.reply [some (powerReply 4300)]]

/-- A service whose model replies with brackets only. -/
def Service.bracketing : Service := .scripted [.reply [some (nestedReply standardRoom)]]

theorem askProject_ends_chatty :
    (AskEnds "build" (some ["ios"]) .chatty (askProject "A bank" (some ["ios"]) .chatty) ∧
      (askProject "A bank" (some ["ios"]) .chatty).1 =
        .error (.unreadable (.malformed .expectingValue ⟨0, 1, 1⟩) "Sorry!") ∧
      (askProject "A bank" (some ["ios"]) .chatty).2.board.asked.value
        [("endpoint", "build"), ("outcome", "AIParseError")] = .ofInt 1) ∧
    (AskEnds "generate" none .boastful (askProject "A bank" none .boastful) ∧
      (askProject "A bank" none .boastful).1 = .error (.integerTooLong 4301) ∧
      (askProject "A bank" none .boastful).2.board = Service.boastful.board) ∧
    AskEnds "generate" none .bracketing (askProject "A bank" none .bracketing) ∧
      (askProject "A bank" none .bracketing).1 = .error (.crashed
        "maximum recursion depth exceeded while decoding a JSON array from a unicode string") ∧
      (askProject "A bank" none .bracketing).2.board = Service.bracketing.board := by
  have hends := askProject_ends "A bank" (some ["ios"]) .chatty
    (by simp [Service.chatty, Service.scripted, Service.new])
  have herror : (askProject "A bank" (some ["ios"]) .chatty).1 =
      .error (.unreadable (.malformed .expectingValue ⟨0, 1, 1⟩) "Sorry!") := rfl
  have hboastful : Service.boastful.Replies (powerReply 4300) :=
    ⟨rfl, ⟨[], rfl⟩, powerReply_ne_empty 4300⟩
  have hbracketing : Service.bracketing.Replies (nestedReply standardRoom) :=
    ⟨rfl, ⟨[], rfl⟩, nestedReply_ne_empty standardRoom⟩
  refine ⟨⟨hends, herror, ?_⟩, ⟨?_, ?_⟩, ?_, ?_⟩
  · cases hends with
    | unreadable reply hreply cause hread hlong hdeep hrun hcounted =>
      exact hcounted.asked.counted 0 (by decide) rfl
    | unavailable hclient hrun => cases herror.symm.trans hrun
    | failed hclient fault hfault hrun => cases herror.symm.trans hrun
    | silent hclient contents hcontents htext hrun => cases herror.symm.trans hrun
    | misshapen reply hreply fields hread hshape hrun => cases herror.symm.trans hrun
    | answered reply hreply fields hread hshape hrun => cases herror.symm.trans hrun
    | tooLong reply hreply digits hread hlong hrun => cases herror.symm.trans hrun
    | tooDeep reply hreply compound hread hdeep hrun => cases herror.symm.trans hrun
  · exact askProject_ends _ none _ (by simp [Service.boastful, Service.scripted, Service.new])
  · exact askProject_of_givenUp hboastful (readReply_powerReply le_rfl _) rfl "A bank" none
  · exact askProject_ends _ none _ (by simp [Service.bracketing, Service.scripted, Service.new])
  · exact askProject_of_givenUp hbracketing (readReply_nestedReply _) rfl "A bank" none

end CapsuleLoom
