import CapsuleLoom.Doc.Finite
import CapsuleLoom.Schema
import CapsuleLoom.Service.Bridge
import CapsuleLoom.Service.Generation
import CapsuleLoom.Service.Request

/-!
# Responses

How the service answers requests.

## Main definitions

* `Response` : an answer.
* `postGenerate`, `postAsk`, `postBuild` : the routes that do work.
* `serve` : the answer to a request.

## References

* HubLab API specification, §6 (external interfaces), HTTP boundary; §7 (error handling).
-/

namespace CapsuleLoom

/-- The content of an answer. -/
inductive Payload where
  /-- A document. -/
  | doc (doc : Doc)
  /-- A text. -/
  | text (text : String)

/-- An answer. -/
structure Response where
  /-- The status code. -/
  status : Nat
  /-- What kind of content it has. -/
  contentType : String
  /-- The content. -/
  payload : Payload

/-- Why a route has no proper answer. -/
inductive RouteError where
  /-- The request is answered with a status code and details. -/
  | refused (status : Nat) (detail : Doc)
  /-- Something failed that no one thought of. -/
  | crashed (message : String)

/-- A refusal with its reason, and fields that say more. -/
def RouteError.because (status : Nat) (reason : String) (more : Fields) : RouteError :=
  .refused status (if more.isEmpty then .str reason else .obj (("error", .str reason) :: more))

/-! ### Generations -/

/-- The reason that is given for documents that are no projects. -/
def invalidProject : String := "Invalid project specification"

/-- The refusal of a project document. -/
def RouteError.ofProject (error : ProjectError) : RouteError :=
  match error with
  | .missingFields _ => .because 400 error.message []
  | .invalid _ => .because 400 invalidProject [("details", .str error.message)]

/-- The refusal of a generation. -/
def RouteError.ofGenerate (error : GenerateError) : RouteError :=
  match error with
  | .breach _ => .because 400 invalidProject [("details", .str error.message)]
  | .unknownTargets _ => .because 400 invalidProject [("details", .str error.message)]
  | .overflow _ => .crashed error.message
  | .targetNotText _ => .crashed error.message

/-- The route `POST /generate`: the generation of a project document. -/
def postGenerate (doc? : Option Doc) : Run RouteError Doc := do
  match doc? with
  | some (.obj fields) =>
    let project ← Run.ofExcept ((readProject true (.obj fields)).mapError .ofProject)
    let generation ← Run.mapError .ofGenerate (generate project none)
    return .obj
      (("success", .bool true) ::
        ("project", .obj [("name", .str project.name), ("version", .str project.version)]) ::
        generation.toFields)
  | _ =>
    throw (.because 400 invalidProject [("details", .str "Request body must be a JSON object")])

/-! ### Questions to a model -/

/-- The refusal when a model gave no project document. -/
def RouteError.ofAsk (error : AskError) : RouteError :=
  match error with
  | .unavailable => .because 500 error.message []
  | .modelFailed _ details => .because 500 error.message [("details", .str details)]
  | .unreadable _ raw => .because 500 "Failed to parse AI response" [("raw", .str raw)]
  | .misshapen fields => .because 500 error.message [("project", .obj fields)]
  | .crashed _ => .crashed error.message
  | .integerTooLong _ => .crashed error.message

/-- A prompt that is there and not empty. -/
def requirePrompt (prompt? : Option String) : Run RouteError String :=
  match nonempty? prompt? with
  | some prompt => return prompt
  | none => throw (.because 400 "Missing prompt" [])

/-- The route `POST /ai/generate`: the project document that a model makes of a prompt. -/
def postAsk (request : AskRequest) : Run RouteError Doc := do
  let prompt ← requirePrompt request.prompt
  let fields ← Run.mapError .ofAsk (askProject prompt none)
  let name := (fields.get "name").display
  let count := ((fields.get "screens").items?.getD []).length
  return .obj
    [ ("success", .bool true),
      ("project", .obj fields),
      ("message", .str s!"Generated \"{name}\" with {count} screens") ]

/-- The refusal when the project document of a model is of no use. -/
def RouteError.unusable (fields : Fields) (details : String) : RouteError :=
  .because 500 "AI build failed" [("details", .str details), ("project", .obj fields)]

/-- The refusal of a generation of a project document of a model. -/
def RouteError.ofBuild (fields : Fields) (error : GenerateError) : RouteError :=
  match error with
  | .breach _ => .unusable fields error.message
  | _ => .ofGenerate error

/-- The route `POST /ai/build`: the generation of the project document that a model makes of a
prompt. -/
def postBuild (request : BuildRequest) : Run RouteError Doc := do
  let prompt ← requirePrompt request.prompt
  let fields ← Run.mapError .ofAsk (askProject prompt (some request.targets))
  let project ← Run.ofExcept <|
    (readProject false (.obj fields)).mapError fun error => .unusable fields error.message
  let generation ← Run.mapError (.ofBuild fields) (generate project none)
  return .obj
    (("success", .bool true) :: ("prompt", .str prompt) :: ("project", .obj fields) ::
      generation.toFields)

/-! ### Other routes -/

/-- The answer of `GET /`: the service, its version and its routes. -/
def overview (settings : Settings) : Doc :=
  .obj
    [ ("name", .str settings.serviceName),
      ("version", .str settings.version),
      ("environment", .str settings.environment),
      ("docs", .str settings.docsUrl),
      ("ai", .str (if settings.modelConfigured then "configured" else "not configured")),
      ("endpoints", .obj
        [ ("health", .str "GET /health"),
          ("schema", .str "GET /schema"),
          ("generate", .str "POST /generate"),
          ("ai_generate", .str "POST /ai/generate"),
          ("ai_build", .str "POST /ai/build"),
          ("metrics", .str "GET /metrics") ]) ]

/-- The answer of `GET /health`. -/
def healthDoc (now : Int) : Doc :=
  .obj [("status", .str "ok"), ("timestamp", .str (momentText now))]

/-- The refusal of content that could not be read. -/
def RouteError.ofContent : ContentError → RouteError
  | .malformed offset =>
    .because 400 "Invalid request body" [("details", .strs [s!"body.{offset}: JSON decode error"])]
  | .integerTooLong | .nestedTooDeep => .because 400 "There was an error parsing the body" []

/-- The value of a check, or the refusal of its problems. -/
def requireChecked {α : Type} : Checked α → Run RouteError α
  | .good value => return value
  | .bad problems =>
    throw (.because 400 "Invalid request body" [("details", .strs (problems.map Problem.line))])

/-- The content of the answer of a route. -/
def answerRoute (request : Request) (route : Route) : Run RouteError Payload := do
  match route with
  | .overview => return .doc (overview (← Run.settings))
  | .health => return .doc (healthDoc (← get).now)
  | .schema => return .doc projectSchema
  | .metrics =>
    return .text
      (← Run.ofExcept ((← get).board.render.mapError fun error => .crashed error.message))
  | .generate =>
    let content ← Run.ofExcept ((readContent (← get).room request).mapError .ofContent)
    return .doc (← postGenerate content.doc?)
  | .ask =>
    let content ← Run.ofExcept ((readContent (← get).room request).mapError .ofContent)
    return .doc (← postAsk (← requireChecked content.askRequest))
  | .build =>
    let content ← Run.ofExcept ((readContent (← get).room request).mapError .ofContent)
    return .doc (← postBuild (← requireChecked content.buildRequest))

/-! ### Answers -/

/-- The kind of content of documents. -/
def docType : String := "application/json"

/-- The kind of content of metrics. -/
def metricsType : String := "text/plain; version=0.0.4; charset=utf-8"

/-- An answer with a document. -/
def Response.ofDoc (status : Nat) (doc : Doc) : Response := ⟨status, docType, .doc doc⟩

/-- An answer that only says what is wrong. -/
def Response.ofDetail (status : Nat) (detail : Doc) : Response :=
  .ofDoc status (.obj [("detail", detail)])

/-- A proper answer.  Numbers that are not finite are sent as null. -/
def Response.ofPayload : Payload → Response
  | .doc doc => .ofDoc 200 doc.finiteOnly
  | .text text => ⟨200, metricsType, .text text⟩

/-- The name under which the service tells about failures. -/
def serviceLogger : String := "hublab.main"

/-- The answer when something failed that no one thought of, which is told about. -/
def crash (request : Request) (message : String) : StateM Service Response := do
  let path := Route.dropFinalBreak request.address.path
  modify fun service =>
    let event : LogEvent :=
      ⟨.error, serviceLogger, s!"Unhandled exception on {request.method} {path}"⟩
    { service with
      journal := { service.journal with events := service.journal.events ++ [event] } }
  return .ofDoc 500 (.obj
    [ ("status", .str "error"),
      ("detail", .str message),
      ("path", .str (request.origin ++ request.address.text)),
      ("method", .str request.method) ])

/-- The answer to a request that has a route.  A refusal whose details have numbers that are not
finite cannot be sent. -/
def serveRoute (request : Request) (route : Route) : StateM Service Response := do
  match ← (answerRoute request route).run with
  | .ok payload => return .ofPayload payload
  | .error (.crashed message) => crash request message
  | .error (.refused status detail) =>
    if detail.isFinite then return .ofDetail status detail
    else crash request "Out of range float values are not JSON compliant"

/-- The answer to a request. -/
def serve (request : Request) : StateM Service Response := do
  let request := request.forwarded
  let limit := (← get).settings.maxBodyBytes
  if request.announcedLength?.any fun length => decide (limit < (length : Int)) then
    return .ofDetail 413 (.str s!"Request body exceeds {limit} bytes")
  match Route.ofPath? request.address.path with
  | none => return .ofDetail 404 (.str "Not Found")
  | some route =>
    if route.method = request.method then serveRoute request route
    else return .ofDetail 405 (.str "Method Not Allowed")

end CapsuleLoom
