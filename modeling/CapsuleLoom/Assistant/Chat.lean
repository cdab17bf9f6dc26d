import CapsuleLoom.Number.Numeral
import CapsuleLoom.Settings.Basic

/-!
# Conversations with a model

What is sent to a model, and what may come back.

## Main definitions

* `ChatRequest`, `ChatOptions` : what is sent.
* `Outcome` : what may come back.
* `pauseAfter` : how long to wait before asking again.

## References

* HubLab API specification, §6 (external interfaces), AI bridge; §9 (ambient stack), LLM client.
-/

namespace CapsuleLoom

/-- A message to a model. -/
structure ChatMessage where
  /-- Who says it. -/
  role : String
  /-- What is said. -/
  content : String
  deriving DecidableEq

/-- What a caller may choose for a request. -/
structure ChatOptions where
  /-- The name of the model; an empty name counts as none. -/
  model : Option String
  /-- How freely the model answers. -/
  temperature : Option Number
  /-- How long the answer may be; zero counts as no choice. -/
  maxTokens : Option Int

/-- No choices. -/
def ChatOptions.open : ChatOptions := ⟨none, none, none⟩

/-- A request to a model. -/
structure ChatRequest where
  /-- The name of the model. -/
  model : String
  /-- The conversation so far. -/
  messages : List ChatMessage
  /-- How freely the model answers. -/
  temperature : Number
  /-- How long the answer may be. -/
  maxTokens : Int

/-- The request of a conversation; the settings decide what the caller leaves open. -/
def ChatRequest.make (settings : Settings) (messages : List ChatMessage) (options : ChatOptions) :
    ChatRequest where
  model := (options.model.filter fun model => !model.isEmpty).getD settings.model
  messages := messages
  temperature := options.temperature.getD settings.temperature
  maxTokens := (options.maxTokens.filter (· ≠ 0)).getD settings.maxTokens

/-- A failure that the model's side reports. -/
structure ModelFault where
  /-- The wording of the failure. -/
  message : String
  /-- What else is known of it. -/
  details : String
  deriving DecidableEq

/-- A failure of which only the wording is known. -/
def ModelFault.plain (message : String) : ModelFault := ⟨message, message⟩

/-- The model cannot be reached. -/
def ModelFault.connection : ModelFault := .plain "Connection error."

/-- The model does not answer in time. -/
def ModelFault.timeout : ModelFault := .plain "Request timed out."

/-- What may come back from a model. -/
inductive Outcome where
  /-- Answers to choose from, each of which may be without text. -/
  | reply (contents : List (Option String))
  /-- A failure that the model's side reports, which may pass. -/
  | failed (fault : ModelFault)
  /-- Any other failure. -/
  | crashed (message : String)
  deriving DecidableEq

/-- The text of a reply: that of the first answer, unless it is empty. -/
def replyText? (contents : List (Option String)) : Option String :=
  (contents.head?.getD none).filter fun text => !text.isEmpty

/-- The greatest pause, in seconds. -/
def longestPause : Rat := 8

/-- How long to wait behind the given count of failures, in seconds: half a second, and twice as
long each time. -/
def pauseSeconds (failures : Nat) : Rat :=
  let pause : Rat := (2 : Rat) ^ (failures - 1) / 2
  if longestPause < pause then longestPause else pause

/-- The pause as a double. -/
def pauseAfter (failures : Nat) : Double := .ofRat (pauseSeconds failures)

/-- What a client of the model is built with. -/
structure ClientConfig where
  /-- The key. -/
  apiKey : String
  /-- The address of the model. -/
  baseUrl : String
  /-- How long to wait for an answer. -/
  timeout : Number

/-- A client of the model.  Without a key it has nothing to be built with. -/
structure Client where
  /-- What the client was built with. -/
  config : Option ClientConfig

/-- The client that settings describe. -/
def Client.make (settings : Settings) : Client :=
  if settings.modelConfigured then
    ⟨some ⟨settings.apiKey, settings.baseUrl, settings.timeoutSeconds⟩⟩
  else ⟨none⟩

/-- Whether a client can ask the model. -/
def Client.enabled (client : Client) : Bool := client.config.isSome

end CapsuleLoom
