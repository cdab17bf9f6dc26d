import CapsuleLoom.Proofs.Service.Run
import CapsuleLoom.Service.Completion

/-!
# What completions come to

A completion takes outcomes off the script until one is not a failure that may pass, or until no
attempt is left.  What it comes to depends only on the client, the script and the count of
attempts, and it changes nothing but the conversation with the model.

## Main definitions

* `lastOutcome` : the outcome that counts of those in a script.
* `Service.completion` : the text that the model goes on with, or why there is none.
* `Service.Replies` : the model replies with a text.
* `Service.OnlyTalked` : nothing has changed but the conversation with the model.

## Main results

* `sendAgain_spec` : asking again ends with the outcome that counts.
* `Service.completion_eq_ok_iff` : there is a completion exactly if the model replies with a text.
* `complete_spec` : a completion of the service's own client comes to `Service.completion`.
-/

namespace CapsuleLoom

/-- Whether an outcome is a failure that may pass. -/
def Outcome.isFailure : Outcome → Bool
  | .failed _ => true
  | _ => false

/-- The outcome that counts of those in a script, of which `again` may be failures that pass: the
first that is none, or else the last failure.  Behind the end of a script the model cannot be
reached. -/
def lastOutcome (again : Nat) (script : List Outcome) : Outcome :=
  ((script.take (again + 1)).find? fun outcome => !outcome.isFailure).getD
    (script[again]?.getD (.failed .connection))

/-- The text of an outcome, or why there is none. -/
def Outcome.completion : Outcome → Except CompleteError String
  | .reply contents =>
    match replyText? contents with
    | some text => .ok text
    | none => .error .noContent
  | .failed fault => .error (.failed fault)
  | .crashed message => .error (.crashed message)

namespace Service

/-- The client that the service has or would build. -/
def modelClient (service : Service) : Client := service.client.getD (.make service.settings)

/-- The outcome that counts for the next question. -/
def nextOutcome (service : Service) : Outcome :=
  lastOutcome (service.settings.maxAttempts.toNat - 1) service.script

/-- The text that the model goes on with, or why there is none. -/
def completion (service : Service) : Except CompleteError String :=
  if service.modelClient.enabled then service.nextOutcome.completion else .error .unavailable

/-- Nothing has changed but the conversation with the model and what was told about it. -/
structure OnlyTalked (before after : Service) : Prop where
  /-- The settings are the same. -/
  settings : after.settings = before.settings
  /-- The metrics are the same. -/
  board : after.board = before.board
  /-- The clock is the same. -/
  clock : after.clock = before.clock
  /-- The time of day is the same. -/
  now : after.now = before.now
  /-- The room on the stack is the same. -/
  room : after.room = before.room

theorem OnlyTalked.refl (service : Service) : service.OnlyTalked service :=
  ⟨rfl, rfl, rfl, rfl, rfl⟩

theorem OnlyTalked.trans {first second third : Service} (hfirst : first.OnlyTalked second)
    (hsecond : second.OnlyTalked third) : first.OnlyTalked third where
  settings := hsecond.settings.trans hfirst.settings
  board := hsecond.board.trans hfirst.board
  clock := hsecond.clock.trans hfirst.clock
  now := hsecond.now.trans hfirst.now
  room := hsecond.room.trans hfirst.room

end Service

/-- The outcome of the next request. -/
def firstOutcome (script : List Outcome) : Outcome := script.headD (.failed .connection)

section LastOutcome

variable {again : Nat} {outcome : Outcome} {script : List Outcome}

theorem lastOutcome_zero (script : List Outcome) : lastOutcome 0 script = firstOutcome script := by
  rcases script with _ | ⟨outcome, rest⟩
  · rfl
  · cases houtcome : outcome.isFailure <;> simp [lastOutcome, firstOutcome, houtcome]

theorem lastOutcome_of_not_failure (hfirst : (firstOutcome script).isFailure = false) :
    lastOutcome again script = firstOutcome script := by
  rcases script with _ | ⟨outcome, rest⟩
  · cases hfirst
  · have houtcome : outcome.isFailure = false := hfirst
    simp [lastOutcome, firstOutcome, houtcome]

theorem lastOutcome_succ_of_failure (hfirst : (firstOutcome script).isFailure = true) :
    lastOutcome (again + 1) script = lastOutcome again script.tail := by
  rcases script with _ | ⟨outcome, rest⟩
  · simp [lastOutcome]
  · have houtcome : outcome.isFailure = true := hfirst
    simp [lastOutcome, houtcome]

/-- What counts stands in the script, unless the script has ended. -/
theorem lastOutcome_mem (hlast : lastOutcome again script = outcome)
    (houtcome : outcome.isFailure = false) : outcome ∈ script := by
  unfold lastOutcome at hlast
  cases hfind : (script.take (again + 1)).find? fun outcome => !outcome.isFailure with
  | some found =>
    rw [hfind] at hlast
    obtain rfl : found = outcome := hlast
    exact List.mem_of_mem_take (List.mem_of_find?_eq_some hfind)
  | none =>
    rw [hfind] at hlast
    cases hitem : script[again]? with
    | some item =>
      rw [hitem] at hlast
      obtain rfl : item = outcome := hlast
      exact List.mem_of_getElem? hitem
    | none =>
      rw [hitem] at hlast
      subst hlast
      cases houtcome

end LastOutcome

section Steps

variable (ε : Type) (request : ChatRequest) (service : Service)

/-- The client is that of the service, which stays its client, and the script is left alone. -/
theorem theClient_spec :
    ∃ after, (theClient : Run ε Client) service = (.ok service.modelClient, after) ∧
      service.OnlyTalked after ∧ after.modelClient = service.modelClient ∧
      after.script = service.script := by
  obtain ⟨settings, board, clock, client, script, now, journal⟩ := service
  cases client with
  | none => exact ⟨_, rfl, ⟨rfl, rfl, rfl, rfl, rfl⟩, rfl, rfl⟩
  | some client => exact ⟨_, rfl, .refl _, rfl, rfl⟩

theorem send_spec :
    ∃ after, (send request : Run ε Outcome) service = (.ok (firstOutcome service.script), after) ∧
      service.OnlyTalked after ∧ after.script = service.script.tail := by
  obtain ⟨settings, board, clock, client, script, now, journal⟩ := service
  cases script with
  | nil => exact ⟨_, rfl, ⟨rfl, rfl, rfl, rfl, rfl⟩, rfl⟩
  | cons outcome rest => exact ⟨_, rfl, ⟨rfl, rfl, rfl, rfl, rfl⟩, rfl⟩

theorem pause_spec (seconds : Double) :
    ∃ after, (pause seconds : Run ε Unit) service = (.ok (), after) ∧
      service.OnlyTalked after ∧ after.script = service.script :=
  ⟨_, rfl, ⟨rfl, rfl, rfl, rfl, rfl⟩, rfl⟩

/-- After a failure that may pass, the request is sent again behind a pause. -/
theorem sendAgain_of_failure {again failures : Nat} {outcome : Outcome} {sent : Service}
    (houtcome : outcome.isFailure = true)
    (hsend : (send request : Run ε Outcome) service = (.ok outcome, sent)) :
    (sendAgain request (again + 1) failures : Run ε Outcome) service =
      (pause (pauseAfter (failures + 1)) >>= fun _ => sendAgain request again (failures + 1))
        sent := by
  rw [sendAgain, Steps.bind_ok hsend]
  cases outcome with
  | failed fault => rfl
  | reply contents => cases houtcome
  | crashed message => cases houtcome

theorem sendAgain_of_not_failure {again failures : Nat} {outcome : Outcome} {sent : Service}
    (houtcome : outcome.isFailure = false)
    (hsend : (send request : Run ε Outcome) service = (.ok outcome, sent)) :
    (sendAgain request (again + 1) failures : Run ε Outcome) service = (.ok outcome, sent) := by
  rw [sendAgain, Steps.bind_ok hsend]
  cases outcome with
  | failed fault => cases houtcome
  | reply contents => rfl
  | crashed message => rfl

/-- Asking again ends with the outcome that counts. -/
theorem sendAgain_spec (again failures : Nat) :
    ∃ after, (sendAgain request again failures : Run ε Outcome) service =
        (.ok (lastOutcome again service.script), after) ∧ service.OnlyTalked after := by
  -- Each failure takes one attempt and one outcome off, so the service changes along the induction.
  induction again generalizing failures service with
  | zero =>
    obtain ⟨after, hsend, htalked, -⟩ := send_spec ε request service
    exact ⟨after, (lastOutcome_zero service.script).symm ▸ hsend, htalked⟩
  | succ again ih =>
    obtain ⟨sent, hsend, htalked, hrest⟩ := send_spec ε request service
    cases houtcome : (firstOutcome service.script).isFailure with
    | false =>
      rw [lastOutcome_of_not_failure houtcome]
      exact ⟨sent, sendAgain_of_not_failure ε request service houtcome hsend, htalked⟩
    | true =>
      obtain ⟨paused, hpause, hpaused, hsame⟩ := pause_spec ε sent (pauseAfter (failures + 1))
      obtain ⟨after, hafter, hlater⟩ := ih paused (failures + 1)
      rw [hsame, hrest, ← lastOutcome_succ_of_failure houtcome] at hafter
      rw [sendAgain_of_failure ε request service houtcome hsend, Steps.bind_ok hpause]
      exact ⟨after, hafter, htalked.trans (hpaused.trans hlater)⟩

theorem attemptRequest_spec :
    ∃ after, (attemptRequest request : Run ε Outcome) service = (.ok service.nextOutcome, after) ∧
      service.OnlyTalked after := by
  unfold attemptRequest
  rw [Steps.bind_ok (Run.settings_apply service)]
  exact sendAgain_spec ε request service _ 0

end Steps

/-- The model replies with a text. -/
structure Service.Replies (service : Service) (reply : String) : Prop where
  /-- The model can be asked. -/
  enabled : service.modelClient.enabled = true
  /-- The text is that of the first answer of the outcome that counts. -/
  first : ∃ others, service.nextOutcome = .reply (some reply :: others)
  /-- The text is not empty. -/
  nonempty : reply ≠ ""

theorem replyText?_eq_some_iff {contents : List (Option String)} {reply : String} :
    replyText? contents = some reply ↔
      (∃ others, contents = some reply :: others) ∧ reply ≠ "" := by
  unfold replyText?
  rcases contents with _ | ⟨_ | text, others⟩
  · simp
  · simp
  · simp only [List.head?_cons, Option.getD_some, Option.filter_eq_some_iff, Option.some.injEq,
      List.cons.injEq, exists_and_left, exists_eq', and_true, Bool.not_eq_true',
      String.isEmpty_eq_false_iff]

theorem Outcome.completion_eq_ok_iff {outcome : Outcome} {reply : String} :
    outcome.completion = .ok reply ↔
      (∃ others, outcome = .reply (some reply :: others)) ∧ reply ≠ "" := by
  cases outcome with
  | failed fault => simp [completion]
  | crashed message => simp [completion]
  | reply contents =>
    simp only [Outcome.reply.injEq, ← replyText?_eq_some_iff, completion]
    cases replyText? contents <;> simp

theorem Service.completion_eq_ok_iff {service : Service} {reply : String} :
    service.completion = .ok reply ↔ service.Replies reply := by
  unfold completion
  constructor
  · intro hcompletion
    split_ifs at hcompletion with henabled
    obtain ⟨hfirst, hne⟩ := Outcome.completion_eq_ok_iff.mp hcompletion
    exact ⟨henabled, hfirst, hne⟩
  · intro hreplies
    rw [if_pos hreplies.enabled]
    exact Outcome.completion_eq_ok_iff.mpr ⟨hreplies.first, hreplies.nonempty⟩

/-- A completion of the service's own client comes to `Service.completion`. -/
theorem complete_spec (messages : List ChatMessage) (options : ChatOptions) (service : Service) :
    ∃ after, complete service.modelClient messages options service = (service.completion, after) ∧
      service.OnlyTalked after := by
  unfold complete Service.completion
  cases service.modelClient.enabled with
  | false => exact ⟨service, rfl, .refl service⟩
  | true =>
    obtain ⟨after, hattempt, htalked⟩ := attemptRequest_spec CompleteError
      (.make service.settings messages options) service
    rw [if_pos rfl, if_neg (by simp)]
    dsimp only
    rw [Steps.bind_ok (Run.settings_apply service), Steps.bind_ok hattempt]
    cases service.nextOutcome with
    | reply contents =>
      refine ⟨after, ?_, htalked⟩
      dsimp only [Outcome.completion]
      cases replyText? contents <;> rfl
    | failed fault => exact ⟨_, rfl, htalked.trans ⟨rfl, rfl, rfl, rfl, rfl⟩⟩
    | crashed message => exact ⟨after, rfl, htalked⟩

end CapsuleLoom
