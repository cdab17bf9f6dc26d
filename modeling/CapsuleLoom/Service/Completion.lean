import CapsuleLoom.Service.State

/-!
# Completions

The service asks a model for a chat completion.  A failure that the API of the model reports may
pass, so the model is asked again after a pause, up to `groq_max_attempts` times.

## Main definitions

* `theClient` : the client of the service, which is built when it is first needed.
* `complete` : the text that a model goes on with.

## References

* HubLab API specification, §5 (concurrency and resource model), attempts of the AI bridge; §9
  (ambient stack), LLM client.
-/

namespace CapsuleLoom

/-- Why there is no completion. -/
inductive CompleteError where
  /-- There is no key for the model. -/
  | unavailable
  /-- The model's side failed at the last attempt. -/
  | failed (fault : ModelFault)
  /-- The reply has no text. -/
  | noContent
  /-- Something else failed. -/
  | crashed (message : String)
  deriving DecidableEq

/-- The wording of an error. -/
def CompleteError.message : CompleteError → String
  | unavailable => "GROQ_API_KEY not configured"
  | failed _ => "AI generation failed"
  | noContent => "No content from AI"
  | crashed message => message

/-- The name under which completions tell about events. -/
def completionLogger : String := "hublab.app.integrations.groq.client"

/-- The client of the service, which is built when it is first needed. -/
def theClient {ε : Type} : Run ε Client := do
  match (← get).client with
  | some client => return client
  | none =>
    let client := Client.make (← Run.settings)
    modify fun service => { service with client := some client }
    Run.note fun journal => { journal with clients := journal.clients ++ client.config.toList }
    return client

/-- Forgets the client, so that the next one is built with the settings of then. -/
def forgetClient {ε : Type} : Run ε Unit := modify fun service => { service with client := none }

/-- Sends a request and takes what comes back.  When nothing more comes back, the model cannot be
reached. -/
def send {ε : Type} (request : ChatRequest) : Run ε Outcome := do
  Run.note fun journal => { journal with requests := journal.requests ++ [request] }
  match (← get).script with
  | [] => return .failed .connection
  | outcome :: rest =>
    modify fun service => { service with script := rest }
    return outcome

/-- Makes a pause. -/
def pause {ε : Type} (seconds : Double) : Run ε Unit :=
  Run.note fun journal => { journal with pauses := journal.pauses ++ [seconds] }

/-- Sends a request, and again after each reported failure while attempts are left; `failures`
have been reported before. -/
def sendAgain {ε : Type} (request : ChatRequest) : (attempts failures : Nat) → Run ε Outcome
  | 0, _ => send request
  | attempts + 1, failures => do
    match ← send request with
    | .failed _ =>
      pause (pauseAfter (failures + 1))
      sendAgain request attempts (failures + 1)
    | outcome => return outcome

/-- The last outcome of a request: there is at least one attempt. -/
def attemptRequest {ε : Type} (request : ChatRequest) : Run ε Outcome := do
  sendAgain request ((← Run.settings).maxAttempts.toNat - 1) 0

/-- The text that a model goes on with. -/
def complete (client : Client) (messages : List ChatMessage) (options : ChatOptions) :
    Run CompleteError String := do
  if !client.enabled then throw .unavailable
  match ← attemptRequest (.make (← Run.settings) messages options) with
  | .reply contents =>
    match replyText? contents with
    | some text => return text
    | none => throw .noContent
  | .failed fault =>
    Run.log .error completionLogger s!"Groq API error: {fault.message}"
    throw (.failed fault)
  | .crashed message => throw (.crashed message)

end CapsuleLoom
