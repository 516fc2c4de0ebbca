import Rulebook.Json.Reader
import Rulebook.Text.Classes
import Rulebook.Text.Encoding
import Rulebook.Registry.Form
import Rulebook.Service.Target

/-!
# Requests

A request has a method, a target and a body, if it sends one, and is answered at some time. It is either a
call of the service or it is answered at once: its path is unknown or has a slash too many at the end, its
method is not for the path, its body cannot be read, or what it says does not make a form. A body that is
not JSON is told before any other fault, and a fault in the path before those in the body.
-/

set_option autoImplicit false

namespace Rulebook

/-- What a request sends. -/
inductive RequestBody where
  /-- A JSON value. -/
  | json (v : Json)
  /-- A text with the name of its type. -/
  | raw (text : Text) (contentType : Text)

/-- A request. -/
structure Request where
  method : Text
  target : Target
  body : Option RequestBody
  /-- What the clock of the service shows while the request is answered. -/
  clock : Clock := {}

/-- What an answer holds. -/
inductive ResponseBody where
  | json (v : Json)
  | formFaults (faults : List FormFault)
  | text (t : Text)
deriving DecidableEq

/-- An answer. -/
structure Response where
  status : Nat
  body : ResponseBody
deriving DecidableEq

namespace Response

/-- An answer that gives a reason. -/
def detail (status : Nat) (reason : Json) : Response :=
  { status, body := .json (.obj [("detail", reason)]) }

/-- An answer to a failure of the service itself. -/
def failure : Response := { status := 500, body := .text "Internal Server Error" }

/-- An answer to a request that does not make a form. What cannot be sent makes it a failure. -/
def invalid (faults : List FormFault) : Response :=
  if faults.all FormFault.isTransmissible then { status := 422, body := .formFaults faults }
  else failure

/-- An answer that holds a value. What cannot be sent makes it a failure. -/
def value (status : Nat) (v : Json) : Response :=
  if v.isTransmissible then { status, body := .json v } else failure

end Response

/-- What the service can be called for. -/
inductive Call where
  | validate (content : Json)
  | conditions
  | schema
  | create (new : NewDocument)
  | list (name : Option Text)
  | fetch (id : Int)
  | change (id : Int) (change : DocumentChange)
  | revalidate (id : Int)
  | audit (id : Int)

namespace Service

/-- The paths of the service; the identifier of a document is as it is written. -/
inductive Route where
  | validate
  | conditions
  | schema
  | collection
  | document (id : Text)
  | validation (id : Text)
  | audit (id : Text)
  /-- A page that describes the service. -/
  | page
deriving DecidableEq

/-- The paths of the pages that describe the service. -/
def pages : List Text := ["/openapi.json", "/docs", "/docs/oauth2-redirect", "/redoc"]

/-- Whether a text is a given word, which one line feed may follow. -/
def isWord (word t : Text) : Bool := t = word || t = word ++ "\n"

/-- The route behind the identifier of a document. -/
def documentRoute? (id behind : Text) : Option Route :=
  if behind = [] then some (.document id)
  else if isWord "/validation" behind then some (.validation id)
  else if isWord "/audit" behind then some (.audit id)
  else none

/-- The route of a path. -/
def route? (path : Text) : Option Route :=
  if isWord "/validate" path then some .validate
  else if isWord "/conditions" path then some .conditions
  else if isWord "/schema" path then some .schema
  else if isWord "/rule-sets" path then some .collection
  else if pages.any fun page => isWord page path then some .page
  else
    match Text.dropPrefix? "/rule-sets/" path with
    | none => none
    | some rest =>
      let id := rest.takeWhile (· ≠ ('/' : CodePoint))
      if id = [] then none else documentRoute? id (rest.dropWhile (· ≠ ('/' : CodePoint)))

/-- Whether a path is none but would be one without the slashes at its end. -/
def isRedirected (path : Text) : Bool :=
  path ≠ "/" && path.getLast? = some ('/' : CodePoint) &&
    (route? (path.trimEnd (· = ('/' : CodePoint)))).isSome

/-- Why a body cannot be read. -/
inductive BodyFault where
  /-- The text is no JSON at an offset. -/
  | notJson (offset : Nat)
  /-- The text is beyond what a reader takes. -/
  | unreadable

/-- Whether a type of content is JSON: the type is `application` and the subtype is `json` or ends
in `+json`, in any case; parameters do not count. -/
def isJsonType (contentType : Text) : Bool :=
  let essence := ((contentType.cutAt ';').1.trim CodePoint.isBlank).toLowerAscii
  essence.count ('/' : CodePoint) = 1 &&
    match Text.dropPrefix? "application/" essence with
    | some subtype => subtype = "json" || (Text.ofString "+json").isSuffixOf subtype
    | none => false

/-- Reads a text as JSON; numbers may be infinite or undefined. -/
def readJson (t : Text) : Except BodyFault Json :=
  match Json.Reader.document Json.Reader.lenient t with
  | .ok v => .ok v
  | .error fault =>
    match fault.offset? t with
    | some offset => .error (.notJson offset)
    | none => .error .unreadable

/-- Reads bytes as JSON in the encoding that they show. -/
def readJsonBytes (bytes : List UInt8) : Except BodyFault Json :=
  match (Encoding.detect bytes).decode? bytes with
  | some t => readJson t
  | none => .error .unreadable

/-- What a request says in its body. -/
inductive Payload where
  | absent
  | json (v : Json)
  /-- A text of another type than JSON. -/
  | other

/-- Reads what a request sends. -/
def readBody : Option RequestBody → Except BodyFault Payload
  | none => .ok .absent
  | some (.json v) => .ok (.json v)
  | some (.raw text contentType) =>
    if text = [] then .ok .absent
    else if isJsonType contentType then (readJsonBytes (Utf8.encode text)).map .json
    else .ok .other

/-- The members that a form is read from. -/
def formMembers : Payload → Except (List FormFault) Members
  | .json (.obj members) => .ok members
  | .json v => .error [{ cause := .notObject, place := Form.bodyPlace, echo := v }]
  | .other => .error [{ cause := .notObject, place := Form.bodyPlace, echo := .null }]
  | .absent => .error [{ cause := .missing, place := Form.bodyPlace, echo := .null }]

/-- Reads a form from what a request says. -/
def readForm {α : Type} (form : Members → Except (List FormFault) α) (p : Payload) :
    Except (List FormFault) α :=
  match formMembers p with
  | .ok members => form members
  | .error faults => .error faults

/-- The identifier of a document. -/
def readId (id : Text) : Except (List FormFault) Int :=
  match Form.readNumeral id with
  | .ok n => .ok n
  | .error cause =>
    .error [{ cause, place := [.str "path", .str "rule_set_id"], echo := .str id }]

/-- The answer at once to a request whose method is not for its path. -/
def wrongMethod : Response := .detail 405 (.str "Method Not Allowed")

/-- The answer at once to a request whose path is unknown. -/
def notFound : Response := .detail 404 (.str "Not Found")

/-- The answer at once to a request for a page that describes the service; what the page holds is
not the service's to say. -/
def pageResponse : Response := { status := 200, body := .text [] }

/-- The answer at once to a request with slashes too many. -/
def redirect : Response := { status := 307, body := .text [] }

/-- The answer at once to a request with a body that cannot be read. -/
def bodyFaultResponse : BodyFault → Response
  | .notJson offset =>
    .invalid [
      { cause := .jsonInvalid
        place := Form.bodyPlace ++ [.int offset]
        echo := .obj [] }]
  | .unreadable => .detail 400 (.str "There was an error parsing the body")

/-- The call that a form makes, or the answer to its faults. -/
def callOf {α : Type} (make : α → Call) : Except (List FormFault) α → Except Response Call
  | .ok a => .ok (make a)
  | .error faults => .error (.invalid faults)

/-- The call of a request with a body. -/
def bodyCall (body : Option RequestBody) (form : Payload → Except (List FormFault) Call) :
    Except Response Call :=
  match readBody body with
  | .error fault => .error (bodyFaultResponse fault)
  | .ok payload => callOf id (form payload)

/-- The form for a change with the identifier of the document it concerns; all faults of both are
told. -/
def changeForm (id : Text) (p : Payload) : Except (List FormFault) Call :=
  match readId id, readForm Form.documentChange p with
  | .ok id, .ok change => .ok (.change id change)
  | .ok _, .error faults => .error faults
  | .error faults, .ok _ => .error faults
  | .error faults, .error more => .error (faults ++ more)

/-- The call of a request on a route. -/
def routeCall (r : Request) : Route → Except Response Call
  | .validate =>
    if r.method = "POST" then
      bodyCall r.body fun p => (readForm Form.validation p).map .validate
    else .error wrongMethod
  | .conditions => if r.method = "GET" then .ok .conditions else .error wrongMethod
  | .schema => if r.method = "GET" then .ok .schema else .error wrongMethod
  | .collection =>
    if r.method = "POST" then
      bodyCall r.body fun p =>
        (readForm Form.newDocument p).map fun new => .create { new with created := r.clock.stored }
    else if r.method = "GET" then .ok (.list (r.target.value? "name"))
    else .error wrongMethod
  | .document id =>
    if r.method = "GET" then callOf .fetch (readId id)
    else if r.method = "PATCH" then bodyCall r.body (changeForm id)
    else .error wrongMethod
  | .validation id =>
    if r.method = "GET" then callOf .revalidate (readId id) else .error wrongMethod
  | .audit id => if r.method = "GET" then callOf .audit (readId id) else .error wrongMethod
  | .page => .error (if r.method = "GET" ∨ r.method = "HEAD" then pageResponse else wrongMethod)

/-- The call of a request, or the answer to it at once. -/
def call (r : Request) : Except Response Call :=
  match route? r.target.path with
  | some route => routeCall r route
  | none => .error (if isRedirected r.target.path then redirect else notFound)

end Service

end Rulebook
