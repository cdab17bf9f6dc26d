import CapsuleLoom.Proofs.Service.Completion
import CapsuleLoom.Proofs.Number.Double

/-!
# Attempts of a completion

A completion sends one request again and again, with pauses between, until an outcome is no failure
that may pass or all attempts are used up.  How many requests that takes can be read off the script
beforehand, and so can the pauses.  The outcome of the last request alone decides the result.

## Main definitions

* `requestCount` : how many requests a completion takes.
* `sendAround` : requests and pauses in turn.
* `Outcome.Decides` : the result that belongs to an outcome.

## Main results

* `place?_pauseAfter` : the pauses, in seconds.
* `sendAgain_eq_sendAround`, `attemptRequest_apply` : asking again is sending requests and making
  pauses in turn.
* `complete_sends` : the requests, the pauses and the result of every completion.
-/

namespace CapsuleLoom

/-! ### Reading the script beforehand -/

/-- The outcome of a request by its position.  Behind the end of a script the model cannot be
reached. -/
def outcomeAt (script : List Outcome) (position : Nat) : Outcome :=
  script[position]?.getD (.failed .connection)

/-- How many requests a completion takes that may make some attempts: up to the first outcome that
is no failure that may pass. -/
def requestCount (attempts : Nat) (script : List Outcome) : Nat :=
  min attempts ((script.findIdx? fun outcome => !outcome.isFailure).elim attempts (· + 1))

section Script

variable {script : List Outcome}

theorem outcomeAt_zero (script : List Outcome) : outcomeAt script 0 = firstOutcome script := by
  cases script <;> rfl

theorem outcomeAt_tail (script : List Outcome) (position : Nat) :
    outcomeAt script.tail position = outcomeAt script (position + 1) := by
  cases script <;> rfl

theorem requestCount_one (script : List Outcome) : requestCount 1 script = 1 := by
  unfold requestCount
  cases script.findIdx? fun outcome => !outcome.isFailure with
  | none => rfl
  | some position => exact Nat.min_eq_left (Nat.succ_le_succ (Nat.zero_le position))

theorem requestCount_of_not_failure (hfirst : (firstOutcome script).isFailure = false)
    (again : Nat) : requestCount (again + 1) script = 1 := by
  rcases script with _ | ⟨outcome, rest⟩
  · cases hfirst
  · have houtcome : outcome.isFailure = false := hfirst
    simp [requestCount, List.findIdx?_cons, houtcome]

/-- A failure takes one request more than what comes behind it. -/
theorem requestCount_of_failure (hfirst : (firstOutcome script).isFailure = true) (again : Nat) :
    requestCount (again + 2) script = requestCount (again + 1) script.tail + 1 := by
  rcases script with _ | ⟨outcome, rest⟩
  · simp [requestCount]
  · have houtcome : outcome.isFailure = true := hfirst
    have hfind : (outcome :: rest).findIdx? (fun outcome => !outcome.isFailure) =
        (rest.findIdx? fun outcome => !outcome.isFailure).map (· + 1) := by
      simp [List.findIdx?_cons, houtcome]
    rw [requestCount, requestCount, hfind, List.tail_cons]
    cases rest.findIdx? fun outcome => !outcome.isFailure with
    | none => simp
    | some position => exact Nat.succ_min_succ (again + 1) (position + 1)

theorem requestCount_pos (again : Nat) (script : List Outcome) :
    0 < requestCount (again + 1) script := by
  unfold requestCount
  cases script.findIdx? fun outcome => !outcome.isFailure with
  | none => simp
  | some position => simp

end Script

/-! ### Pauses -/

/-- The pauses behind some failures, when others have been reported before. -/
def pausesAfter (failures count : Nat) : List Double :=
  (List.range count).map fun position => pauseAfter (failures + position + 1)

theorem length_pausesAfter (failures count : Nat) :
    (pausesAfter failures count).length = count := by
  rw [pausesAfter, List.length_map, List.length_range]

theorem pausesAfter_succ (failures count : Nat) :
    pausesAfter failures (count + 1) =
      pauseAfter (failures + 1) :: pausesAfter (failures + 1) count := by
  rw [pausesAfter, List.range_succ_eq_map, List.map_cons, List.map_map, pausesAfter]
  refine congrArg _ (List.map_congr_left fun position _ => ?_)
  exact congrArg pauseAfter (by omega)

/-- Powers of two are doubles. -/
theorem Double.place?_ofRat_zpow {exponent : Int} (hleast : -1022 ≤ exponent)
    (hgreatest : exponent ≤ 1023) :
    (Double.ofRat (2 ^ exponent)).place? = some (.rational (2 ^ exponent)) := by
  have hvalue : (2 : Rat) ^ exponent = (leadingBit : Nat) * 2 ^ (exponent - 52) := by
    rw [leadingBit_eq_pow, ← zpow_add₀ two_ne_zero]
    congr 1
    omega
  have canonical : Canonical leadingBit (exponent - 52) :=
    ⟨by decide, by omega, by omega, .inl le_rfl⟩
  have hpos : (0 : Rat) < 2 ^ exponent := by positivity
  rw [ofRat, rat_abs_eq, abs_of_pos hpos, hvalue, round_of_canonical canonical (by decide)]
  have hsign : decide ((leadingBit : Nat) * (2 : Rat) ^ (exponent - 52) < 0) = false :=
    decide_eq_false (by rw [← hvalue]; exact hpos.not_gt)
  rw [hsign]
  exact congrArg (fun q => some (Place.rational q)) (toRat_finite_false canonical)

/-- The pause behind a failure is half a second, doubled with each failure before it, and never
more than eight seconds. -/
theorem pauseSeconds_succ (failures : Nat) :
    pauseSeconds (failures + 1) = min 8 (1 / 2 * 2 ^ failures) := by
  have hhalf : (2 : Rat) ^ failures / 2 = 1 / 2 * 2 ^ failures := by ring
  rw [pauseSeconds, Nat.add_sub_cancel, hhalf]
  split_ifs with hlong
  · exact (min_eq_left hlong.le).symm
  · exact (min_eq_right (not_lt.mp hlong)).symm

/-- All pauses are powers of two, so no pause is rounded. -/
theorem place?_pauseAfter (failures : Nat) :
    (pauseAfter (failures + 1)).place? = some (.rational (min 8 (1 / 2 * 2 ^ failures))) := by
  have hpower : min 8 ((1 : Rat) / 2 * 2 ^ failures) = 2 ^ ((min failures 4 : Nat) - 1 : Int) := by
    have hhalf (count : Nat) : (2 : Rat) ^ (count - 1 : Int) = 1 / 2 * 2 ^ count := by
      rw [zpow_sub_one₀ two_ne_zero, zpow_natCast]
      ring
    rw [hhalf]
    rcases le_total failures 4 with hfew | hmany
    · have hpow : (2 : Rat) ^ failures ≤ 2 ^ 4 := pow_le_pow_right₀ one_le_two hfew
      rw [min_eq_left hfew, min_eq_right (by linarith)]
    · have hpow : (2 : Rat) ^ 4 ≤ 2 ^ failures := pow_le_pow_right₀ one_le_two hmany
      rw [min_eq_right hmany, min_eq_left (by linarith)]
      norm_num
  rw [pauseAfter, pauseSeconds_succ, hpower]
  exact Double.place?_ofRat_zpow (by omega) (by omega)

theorem map_place?_pausesAfter (count : Nat) :
    (pausesAfter 0 count).map Double.place? =
      (List.range count).map fun failures => some (.rational (min 8 (1 / 2 * 2 ^ failures))) := by
  rw [pausesAfter, List.map_map]
  refine List.map_congr_left fun failures _ => ?_
  rw [Function.comp_apply, Nat.zero_add]
  exact place?_pauseAfter failures

/-! ### Requests and pauses in turn -/

/-- A request is sent once in front of each pause, and once more behind all of them. -/
def sendAround {ε : Type} (request : ChatRequest) : (pauses : List Double) → Run ε Outcome
  | [] => send request
  | seconds :: pauses => do
    let _ ← send request
    pause seconds
    sendAround request pauses

/-- The service after requests and pauses in turn. -/
def Service.exchanged (request : ChatRequest) (pauses : List Double) (service : Service) :
    Service :=
  { service with
    script := service.script.drop (pauses.length + 1)
    journal :=
      { service.journal with
        requests := service.journal.requests ++ List.replicate (pauses.length + 1) request
        pauses := service.journal.pauses ++ pauses } }

/-- The service after a pause. -/
def Service.paused (seconds : Double) (service : Service) : Service :=
  { service with
    journal := { service.journal with pauses := service.journal.pauses ++ [seconds] } }

section Turns

variable {ε : Type} (request : ChatRequest)

theorem exchanged_cons (seconds : Double) (pauses : List Double) (service : Service) :
    service.exchanged request (seconds :: pauses) =
      ((service.exchanged request []).paused seconds).exchanged request pauses := by
  simp [Service.exchanged, Service.paused, List.replicate_succ]

theorem send_apply (service : Service) :
    (send request : Run ε Outcome) service =
      (.ok (firstOutcome service.script), service.exchanged request []) := by
  obtain ⟨settings, board, clock, client, script, now, journal⟩ := service
  rw [Service.exchanged, List.append_nil]
  cases script <;> rfl

theorem pause_apply (seconds : Double) (service : Service) :
    (pause seconds : Run ε Unit) service = (.ok (), service.paused seconds) := rfl

/-- Requests and pauses in turn come to the outcome of the last request. -/
theorem sendAround_apply (pauses : List Double) (service : Service) :
    (sendAround request pauses : Run ε Outcome) service =
      (.ok (outcomeAt service.script pauses.length), service.exchanged request pauses) := by
  induction pauses generalizing service with
  | nil => exact outcomeAt_zero service.script ▸ send_apply request service
  | cons seconds pauses ih =>
    have hscript : ((service.exchanged request []).paused seconds).script = service.script.tail :=
      List.drop_one
    rw [sendAround, Steps.bind_ok (send_apply request service),
      Steps.bind_ok (pause_apply seconds _), ih, ← exchanged_cons, hscript, outcomeAt_tail,
      List.length_cons]

/-- Asking again is sending requests and making pauses in turn, as often as the script says. -/
theorem sendAgain_eq_sendAround (again failures : Nat) (service : Service) :
    (sendAgain request again failures : Run ε Outcome) service =
      sendAround request
        (pausesAfter failures (requestCount (again + 1) service.script - 1)) service := by
  -- Each failure takes one attempt and one outcome off, and makes the later pauses longer.
  induction again generalizing failures service with
  | zero =>
    rw [requestCount_one]
    rfl
  | succ again ih =>
    cases houtcome : (firstOutcome service.script).isFailure with
    | false =>
      rw [requestCount_of_not_failure houtcome,
        sendAgain_of_not_failure ε request service houtcome (send_apply request service)]
      exact (send_apply request service).symm
    | true =>
      obtain ⟨count, hcount⟩ : ∃ count, requestCount (again + 1) service.script.tail = count + 1 :=
        Nat.exists_eq_add_one.mpr (requestCount_pos again service.script.tail)
      have hscript : ((service.exchanged request []).paused (pauseAfter (failures + 1))).script =
          service.script.tail := List.drop_one
      rw [sendAgain_of_failure ε request service houtcome (send_apply request service),
        Steps.bind_ok (pause_apply _ _), ih, hscript, requestCount_of_failure houtcome, hcount,
        Nat.add_sub_cancel, Nat.add_sub_cancel, pausesAfter_succ, sendAround,
        Steps.bind_ok (send_apply request service), Steps.bind_ok (pause_apply _ _)]

/-- The requests and pauses of a completion can be read off the script beforehand. -/
theorem attemptRequest_apply {service : Service} (hattempts : 1 ≤ service.settings.maxAttempts) :
    ∃ pauses, attemptRequest request service =
        (sendAround request pauses : Run CompleteError Outcome) service ∧
      pauses.length + 1 = requestCount service.settings.maxAttempts.toNat service.script ∧
      pauses = pausesAfter 0 pauses.length := by
  obtain ⟨again, hagain⟩ : ∃ again, service.settings.maxAttempts.toNat = again + 1 :=
    Nat.exists_eq_add_one.mpr (by omega)
  have hpos := requestCount_pos again service.script
  refine ⟨pausesAfter 0 (requestCount (again + 1) service.script - 1), ?_, ?_, ?_⟩
  · unfold attemptRequest
    rw [Steps.bind_ok (Run.settings_apply service), hagain, Nat.add_sub_cancel,
      sendAgain_eq_sendAround]
  · rw [length_pausesAfter, hagain, Nat.sub_add_cancel hpos]
  · rw [length_pausesAfter]

end Turns

/-! ### Results -/

/-- The result that belongs to the outcome of the last request. -/
inductive Outcome.Decides : Outcome → Except CompleteError String → Prop
  /-- The text of the first answer is the result as it is. -/
  | text {reply : String} (hne : reply ≠ "") (others : List (Option String)) :
      Decides (.reply (some reply :: others)) (.ok reply)
  /-- There is no answer. -/
  | noAnswer : Decides (.reply []) (.error .noContent)
  /-- The first answer has no text. -/
  | noText (others : List (Option String)) : Decides (.reply (none :: others)) (.error .noContent)
  /-- The text of the first answer is empty. -/
  | emptyText (others : List (Option String)) :
      Decides (.reply (some "" :: others)) (.error .noContent)
  /-- The model's side failed, with these details. -/
  | failed (fault : ModelFault) : Decides (.failed fault) (.error (.failed fault))
  /-- Something else failed, and is passed on. -/
  | crashed (message : String) : Decides (.crashed message) (.error (.crashed message))

/-- Each outcome decides one result. -/
theorem Outcome.decides_iff {outcome : Outcome} {result : Except CompleteError String} :
    outcome.Decides result ↔ result = outcome.completion := by
  constructor
  · intro hdecides
    cases hdecides with
    | text hne others => exact (completion_eq_ok_iff.mpr ⟨⟨others, rfl⟩, hne⟩).symm
    | noAnswer | noText | emptyText | failed | crashed => rfl
  · rintro rfl
    cases outcome with
    | failed fault => exact .failed fault
    | crashed message => exact .crashed message
    | reply contents =>
      rcases contents with _ | ⟨_ | reply, others⟩
      · exact .noAnswer
      · exact .noText others
      · by_cases hempty : reply = ""
        · subst hempty
          exact .emptyText others
        · rw [completion_eq_ok_iff.mpr ⟨⟨others, rfl⟩, hempty⟩]
          exact .text hempty others

/-- What a completion makes of the outcome of its last request: only a failure of the model's side
is told about. -/
def Outcome.conclude (outcome : Outcome) : Run CompleteError String := do
  if let .failed fault := outcome then
    Run.log .error completionLogger s!"Groq API error: {fault.message}"
  Run.ofExcept outcome.completion

/-- Nothing more is sent once the last outcome is there. -/
theorem Outcome.conclude_apply (outcome : Outcome) (service : Service) :
    ∃ events, outcome.conclude service =
      (outcome.completion, { service with journal := { service.journal with events } }) := by
  cases outcome with
  | failed fault => exact ⟨_, rfl⟩
  | crashed message => exact ⟨_, rfl⟩
  | reply contents => exact ⟨_, Run.ofExcept_apply service _⟩

theorem complete_eq {client : Client} (henabled : client.enabled = true)
    (messages : List ChatMessage) (options : ChatOptions) (service : Service) :
    complete client messages options service =
      (attemptRequest (.make service.settings messages options) >>= Outcome.conclude) service := by
  unfold complete
  rw [henabled, if_neg (by simp)]
  dsimp only
  rw [Steps.bind_ok (Run.settings_apply service)]
  refine congrFun (bind_congr fun outcome => ?_) service
  cases outcome with
  | failed fault => rfl
  | crashed message => rfl
  | reply contents =>
    dsimp only [Outcome.conclude, Outcome.completion]
    cases replyText? contents <;> rfl

/-- A client that can ask the model sends one and the same request, up to the first outcome that is
no failure that may pass or until all attempts are used up.  Between two requests it makes a pause,
and the outcome of the last request alone decides the result.  A client that cannot ask the model
sends nothing. -/
theorem complete_sends (client : Client) (messages : List ChatMessage) (options : ChatOptions)
    (service : Service) (hattempts : 1 ≤ service.settings.maxAttempts) :
    let request := ChatRequest.make service.settings messages options
    let count := requestCount service.settings.maxAttempts.toNat service.script
    (client.enabled = false →
      complete client messages options service = (.error .unavailable, service)) ∧
    (client.enabled = true → ∃ pauses result after,
      complete client messages options service =
        (sendAround request pauses >>= Outcome.conclude) service ∧
      complete client messages options service = (result, after) ∧
      (outcomeAt service.script (count - 1)).Decides result ∧
      after.journal.requests = service.journal.requests ++ List.replicate count request ∧
      after.journal.pauses = service.journal.pauses ++ pauses ∧
      pauses.map Double.place? =
        (List.range (count - 1)).map (fun failures =>
          some (.rational (min 8 (1 / 2 * 2 ^ failures)))) ∧
      after.script = service.script.drop count) ∧
    CompleteError.noContent.message = "No content from AI" := by
  intro request count
  refine ⟨fun hdisabled => ?_, fun henabled => ?_, rfl⟩
  · unfold complete
    rw [hdisabled]
    rfl
  · obtain ⟨pauses, hturns, hlength, hpauses⟩ := attemptRequest_apply request hattempts
    have hbefore : count - 1 = pauses.length := by omega
    have hsent := sendAround_apply (ε := CompleteError) request pauses service
    obtain ⟨events, hconclude⟩ := (outcomeAt service.script pauses.length).conclude_apply
      (service.exchanged request pauses)
    have hcomplete := complete_eq henabled messages options service
    rw [Steps.bind_ok (hturns.trans hsent)] at hcomplete
    refine ⟨pauses, _, _, ?_, hcomplete.trans hconclude, Outcome.decides_iff.mpr ?_, ?_, rfl, ?_,
      ?_⟩
    · rw [hcomplete, Steps.bind_ok hsent]
    · rw [hbefore]
    · exact congrArg (fun sent => service.journal.requests ++ List.replicate sent request) hlength
    · rw [hbefore, ← map_place?_pausesAfter, ← hpauses]
    · exact congrArg service.script.drop hlength

/-- A service whose model is busy twice and then replies; three attempts may be made. -/
def Service.busyTwice : Service :=
  .new { Settings.standard with apiKey := "key", maxAttempts := 3 } (.new Clock.defaultTick)
    [.failed .timeout, .failed ⟨"Error code: 503", "busy"⟩, .reply [some "hello", none],
      .crashed "closed"] 0

/-- It takes three requests to get the reply, with pauses of half a second and of one second, and
what would have come back later is left. -/
theorem complete_sends_busyTwice :
    1 ≤ Service.busyTwice.settings.maxAttempts ∧
      ∃ pauses after,
        complete Service.busyTwice.modelClient [⟨"user", "hi"⟩] .open Service.busyTwice =
          (.ok "hello", after) ∧
        after.journal.requests =
          List.replicate 3 (.make Service.busyTwice.settings [⟨"user", "hi"⟩] .open) ∧
        after.journal.pauses = pauses ∧
        pauses.map Double.place? = [some (.rational (1 / 2)), some (.rational 1)] ∧
        after.script = [.crashed "closed"] := by
  have hattempts : 1 ≤ Service.busyTwice.settings.maxAttempts := by decide
  obtain ⟨-, hsends, -⟩ := complete_sends Service.busyTwice.modelClient [⟨"user", "hi"⟩] .open
    Service.busyTwice hattempts
  obtain ⟨pauses, result, after, -, hcomplete, hdecides, hrequests, hpauses, hplaces, hscript⟩ :=
    hsends rfl
  have hresult : result = .ok "hello" := Outcome.decides_iff.mp hdecides
  refine ⟨hattempts, pauses, after, hresult ▸ hcomplete, hrequests, hpauses, hplaces.trans ?_,
    hscript⟩
  change [some (Place.rational (min 8 (1 / 2 * 2 ^ 0))),
    some (Place.rational (min 8 (1 / 2 * 2 ^ 1)))] = _
  norm_num

end CapsuleLoom
