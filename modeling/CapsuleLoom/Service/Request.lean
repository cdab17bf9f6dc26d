import CapsuleLoom.Assistant.Prompt
import CapsuleLoom.Doc.Reader
import CapsuleLoom.Project.Check
import CapsuleLoom.Service.Address
import CapsuleLoom.Text.Case

/-!
# Requests

What is sent to the service, and how its content is read.

## Main definitions

* `Request` : what is sent.
* `Route` : the places that answer requests.
* `readContent` : the content of a request.
* `Content.askRequest`, `Content.buildRequest` : requests for a model.

## References

* HubLab API specification, §6 (external interfaces), HTTP boundary.
-/

namespace CapsuleLoom

/-- What is sent to the service. -/
structure Request where
  /-- The method. -/
  method : String
  /-- The address of the server. -/
  origin : String
  /-- The place at the server. -/
  address : Address
  /-- What kind of content is sent. -/
  contentType : Option String
  /-- The content. -/
  body : String

/-- A request as it is sent: methods have capital letters, and the address is read. -/
def Request.make (method origin address : String) (contentType : Option String) (body : String) :
    Except AddressError Request :=
  (Address.read address).map fun address => ⟨Text.upper method, origin, address, contentType, body⟩

/-- The methods that are for sending content. -/
def sendingMethods : List String := ["POST", "PUT", "PATCH"]

/-- The length in bytes that a request announces: one without content does so only where its
method is for sending. -/
def Request.announcedLength? (request : Request) : Option Nat :=
  if request.body.isEmpty && !sendingMethods.contains request.method then none
  else some request.body.utf8ByteSize

/-! ### Routes -/

/-- A place that answers requests. -/
inductive Route where
  /-- The route `GET /`. -/
  | overview
  /-- The route `GET /health`. -/
  | health
  /-- The route `GET /schema`. -/
  | schema
  /-- The route `GET /metrics`. -/
  | metrics
  /-- The route `POST /generate`. -/
  | generate
  /-- The route `POST /ai/generate`. -/
  | ask
  /-- The route `POST /ai/build`. -/
  | build
  deriving DecidableEq

namespace Route

/-- All routes. -/
def all : List Route := [health, schema, generate, ask, build, metrics, overview]

/-- The path of a route. -/
def path : Route → String
  | overview => "/"
  | health => "/health"
  | schema => "/schema"
  | metrics => "/metrics"
  | generate => "/generate"
  | ask => "/ai/generate"
  | build => "/ai/build"

/-- The method of a route. -/
def method : Route → String
  | overview => "GET"
  | health => "GET"
  | schema => "GET"
  | metrics => "GET"
  | generate => "POST"
  | ask => "POST"
  | build => "POST"

/-- A path without the line break at its end, if there is one. -/
def dropFinalBreak (path : String) : String :=
  String.ofList (if path.toList.getLast? = some '\n' then path.toList.dropLast else path.toList)

/-- The route of a path.  A line break at the end does not count. -/
def ofPath? (path : String) : Option Route :=
  all.find? fun route => route.path == dropFinalBreak path

end Route

/-- The request as it is answered: one whose path has slashes too many at its end is sent on to
the path without them, if that has a route. -/
def Request.forwarded (request : Request) : Request :=
  let forwarded := request.address.withoutSlashes
  if (Route.ofPath? request.address.path).isNone && (Route.ofPath? forwarded.path).isSome then
    { request with address := forwarded }
  else request

/-! ### Content -/

/-- The content of a request. -/
inductive Content where
  /-- Nothing was sent. -/
  | absent
  /-- A document was sent. -/
  | doc (doc : Doc)
  /-- Something else was sent. -/
  | other

/-- Why the content of a request could not be read. -/
inductive ContentError where
  /-- The content is malformed behind some characters. -/
  | malformed (offset : Nat)
  /-- An integer has more digits than are converted. -/
  | integerTooLong
  /-- A compound lies deeper than there is room for. -/
  | nestedTooDeep
  deriving DecidableEq

/-- Whether a kind of content is documents: its name, without what stands behind a semicolon, is
`application/json`, or it begins with `application/` and ends in `+json`. -/
def isDocType (contentType : String) : Bool :=
  let name := Text.lower (Text.strip (String.ofList (contentType.toList.takeWhile (· ≠ ';'))))
  match name.toList.span (· ≠ '/') with
  | (kind, '/' :: detail) =>
    kind == "application".toList && !detail.contains '/' &&
      (detail == "json".toList || "+json".toList.isSuffixOf detail)
  | _ => false

/-- The characters of a text without a byte order mark in front. -/
def dropMark (text : String) : List Char :=
  match text.toList with
  | '\ufeff' :: rest => rest
  | cs => cs

/-- The content of a request, with room for some levels of compounds. -/
def readContent (room : Nat) (request : Request) : Except ContentError Content :=
  if request.body.isEmpty then .ok .absent
  else if (request.contentType.map isDocType).getD true then
    match Doc.readChars room (dropMark request.body) with
    | .ok doc => .ok (.doc doc)
    | .error (.malformed _ position) => .error (.malformed position.offset)
    | .error (.integerTooLong _) => .error .integerTooLong
    | .error (.nestedTooDeep _) => .error .nestedTooDeep
  else .ok .other

/-- The document that was sent, if there is one. -/
def Content.doc? : Content → Option Doc
  | .doc value => some value
  | _ => none

/-! ### Requests for a model -/

/-- The content of `POST /ai/generate`. -/
structure AskRequest where
  /-- What the app is about. -/
  prompt : Option String

/-- The content of `POST /ai/build`. -/
structure BuildRequest where
  /-- What the app is about. -/
  prompt : Option String
  /-- The platforms. -/
  targets : List String

/-- The fields of the content of a request. -/
def Content.check {α : Type} (check : Fields → Checked α) (content : Content) : Checked α :=
  Checked.under (.key "body") <|
    match content with
    | .absent => .fail .required
    | .doc (.obj fields) => check fields
    | _ => .fail .notFields

/-- A request for a project document. -/
def Content.askRequest : Content → Checked AskRequest :=
  Content.check fun fields => AskRequest.mk <$> optionalText "prompt" fields

/-- A request for a generation of a project document; without platforms the usual ones count. -/
def Content.buildRequest : Content → Checked BuildRequest :=
  Content.check fun fields =>
    BuildRequest.mk
      <$> optionalText "prompt" fields
      <*> defaultField (.plain "targets") defaultTargets
        (checkOpen defaultTargets (checkList checkText)) fields

end CapsuleLoom
