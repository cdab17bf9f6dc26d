import CapsuleLoom.Assistant.Prompt
import CapsuleLoom.Assistant.Reply
import CapsuleLoom.Service.Completion
import CapsuleLoom.Text.Quoted

/-!
# From prompts to project documents

What `POST /ai/generate` and `POST /ai/build` have in common: the model is asked, its reply is read,
and the fields that it left out are filled in.  Every end that is foreseen is counted under
`hublab_ai_requests_total`.

## Main definitions

* `askProject` : the project document that a model makes of a prompt.

## References

* HubLab API specification, §6 (external interfaces), AI bridge; §7 (error handling), (e)
  collaborator errors.
-/

namespace CapsuleLoom

/-- Why a model gave no project document. -/
inductive AskError where
  /-- There is no key for the model. -/
  | unavailable
  /-- The model's side failed, or its reply has no text. -/
  | modelFailed (message details : String)
  /-- The reply holds no document. -/
  | unreadable (cause : ReplyError) (raw : String)
  /-- The document is no project document. -/
  | misshapen (fields : Fields)
  /-- Something else failed. -/
  | crashed (message : String)
  /-- An integer of the reply has more digits than are converted. -/
  | integerTooLong (digits : Nat)

/-- The wording of an error. -/
def AskError.message : AskError → String
  | unavailable => CompleteError.unavailable.message
  | modelFailed message _ => message
  | unreadable cause _ => cause.message
  | misshapen _ => "Invalid project structure from AI"
  | crashed message => message
  | integerTooLong digits => (ReadError.integerTooLong digits).message

/-- The label `outcome` under which an error is counted; some errors are not counted. -/
def AskError.outcome? : AskError → Option String
  | unavailable => some "AIUnavailable"
  | modelFailed _ _ => some "AIUpstreamError"
  | unreadable _ _ => some "AIParseError"
  | misshapen _ => some "AIStructureError"
  | crashed _ => none
  | integerTooLong _ => none

/-- The error of a completion. -/
def AskError.ofComplete (error : CompleteError) : AskError :=
  match error with
  | .unavailable => unavailable
  | .failed fault => modelFailed error.message fault.details
  | .noContent => modelFailed error.message error.message
  | .crashed message => crashed message

/-- The error of a reply. -/
def AskError.ofReply (raw : String) : ReplyError → AskError
  | .integerTooLong digits => integerTooLong digits
  | .nestedTooDeep compound => crashed (ReplyError.nestedTooDeep compound).message
  | cause => unreadable cause raw

/-- The name under which the bridge tells about events. -/
def bridgeLogger : String := "hublab.app.services.ai_service"

/-- What a project document of a model must have: a name that is not blank and a list of
screens. -/
def projectShape? (fields : Fields) : Option (String × List Doc) := do
  let name ← (fields.get "name").text?
  let screens ← (fields.get "screens").items?
  if Text.isBlankText name then none else some (name, screens)

/-- The conversation for a prompt. -/
def promptMessages (prompt : String) (targets? : Option (List String)) : List ChatMessage :=
  [⟨"system", systemPrompt⟩, ⟨"user", userPrompt prompt targets?⟩]

/-- The document of a model's reply to a prompt, with its name and its screens. -/
def askDocument (client : Client) (prompt : String) (targets? : Option (List String)) :
    Run AskError (Fields × String × List Doc) := do
  let reply ← Run.mapError .ofComplete (complete client (promptMessages prompt targets?) .open)
  let fields ← Run.ofExcept ((readReplyWithin (← get).room reply).mapError (.ofReply reply))
  match projectShape? fields with
  | some (name, screens) => return (fields, name, screens)
  | none => throw (.misshapen fields)

/-- The label `endpoint` under which a question is counted: with platforms it is to be built. -/
def endpointName (targets? : Option (List String)) : String :=
  if targets?.isSome then "build" else "generate"

/-- Counts an error and tells about it. -/
def reportError (endpoint : String) (error : AskError) : Run AskError Unit := do
  match error.outcome? with
  | some outcome =>
    Run.meter (Board.countAsked endpoint outcome)
    Run.log .warning bridgeLogger s!"AI {endpoint} failed: {error.message}"
  | none => return ()

/-- The project document that a model makes of a prompt.  Platforms that are asked for replace
those of the model. -/
def askProject (prompt : String) (targets? : Option (List String)) : Run AskError Fields := do
  let endpoint := endpointName targets?
  let client ← theClient
  match ← Run.attempt (askDocument client prompt targets?) with
  | .error error =>
    reportError endpoint error
    throw error
  | .ok (fields, name, screens) =>
    Run.meter (Board.countAsked endpoint "ok")
    Run.log .info bridgeLogger s!"AI generated {Text.quote name} with {screens.length} screen(s)"
    return fillDefaults (← Run.settings).defaultThemePrimary targets? fields

end CapsuleLoom
