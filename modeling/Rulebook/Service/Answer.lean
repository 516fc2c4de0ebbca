import Rulebook.Registry.Display
import Rulebook.Schema.Export
import Rulebook.Service.Request
import Rulebook.Service.VerdictForm

/-!
# Answers

What the service answers to a call, and the registry it leaves behind. A document is stored only if
it is valid. Validations, rejections and stored documents are recorded in the audit log; a write
that fails leaves no record and changes no document. What the registry refuses without a reason of
its own, and what cannot be sent, makes the answer a failure.
-/

set_option autoImplicit false

namespace Rulebook.Service

/-- The audit event of a validation. -/
def validationEvent : Text := "VALIDATION_RUN"

/-- The audit event of a document that is not stored because it is not valid. -/
def rejectionEvent : Text := "RULE_SET_REJECTED"

/-- The audit event of a stored document. -/
def storedEvent : Text := "RULE_SET_STORED"

/-- The name and the version that a record shows. -/
def versionMembers (name : Text) (version : Int) : Members := [
  ("name", .str name),
  ("version", .int version)]

/-- The conditions with their additional fields as an answer shows them. -/
def conditionsJson : Json :=
  .arr (conditions.map fun (name, fields) =>
    .obj [("name", .str name), ("additional_fields", .arr (fields.map .str))])

/-- The answer on a document that is not there. -/
def unknownDocument : Response := .detail 404 (.str "Rule set not found")

/-- The answer on a version that is there already. -/
def duplicateVersion : Response := .detail 409 (.str "Version already exists for this rule set")

/-- The answer to a call that concerns a document, given what is to be done with it. -/
def withDocument (r : Registry) (id : Int) (act : StoredDocument → Response × Registry) :
    Response × Registry :=
  match r.fetch id with
  | .error _ => (.failure, r)
  | .ok none => (unknownDocument, r)
  | .ok (some d) => act d

/-- The answer to a validation. A verdict that does not fit the form of one would make it a failure. -/
def verdictResponse (verdict : Verdict) : Response :=
  match VerdictForm.ofJson? verdict.toJson with
  | some form => .value 200 form.toJson
  | none => .failure

/-- Validates a text that belongs to a document or to none, and records it. -/
def answerValidation (bound : DepthBound) (r : Registry) (now : Time) (document : Option Nat)
    (content : Json) : Response × Registry :=
  let verdict := validate bound (.value content)
  let concerned : Option Cell := document.map fun id => .integer id
  let (_, r) := r.record concerned validationEvent (.obj verdict.summary) now
  (verdictResponse verdict, r)

/-- Stores a document if it is valid. -/
def answerCreate (bound : DepthBound) (r : Registry) (now : Time) (new : NewDocument) :
    Response × Registry :=
  let verdict := validate bound (.value (.str new.content))
  if verdict.isValid then
    match r.create new with
    | .ok (d, r) =>
      let payload := versionMembers d.name d.version
      let (_, r) := r.record (some (.integer d.id)) storedEvent (.obj payload) now
      (.value 201 d.toJson, r)
    | .error .duplicate => (duplicateVersion, r)
    | .error _ => (.failure, r)
  else
    let payload : Members := versionMembers new.name new.version ++ verdict.summary
    let (_, r) := r.record none rejectionEvent (.obj payload) now
    (.value 422 (.obj [("detail", verdict.toJson)]), r)

/-- Changes a document. -/
def answerChange (r : Registry) (change : DocumentChange) (d : StoredDocument) :
    Response × Registry :=
  match r.change d change with
  | .ok (d, r) => (.value 200 d.toJson, r)
  | .error _ => (.failure, r)

/-- The records of the audit log as an answer shows them, with null for a number that is not finite;
a record that cannot be shown makes it a failure. -/
def auditResponse (records : List AuditRecord) : Response :=
  match records.mapM AuditRecord.toJson with
  | .ok shown => .value 200 (Json.arr shown).finitePart
  | .error _ => .failure

/-- The answer to a call, rules being allowed down to a depth, and the registry after it. What is recorded is
recorded at a given time. -/
def answer (bound : DepthBound) (r : Registry) (now : Time) : Call → Response × Registry
  | .validate content => answerValidation bound r now none content
  | .conditions => (.value 200 conditionsJson, r)
  | .schema => (.value 200 Schema.exported, r)
  | .create new => answerCreate bound r now new
  | .list name => (.value 200 (.arr ((r.list name).map StoredDocument.toJson)), r)
  | .fetch id => withDocument r id fun d => (.value 200 d.toJson, r)
  | .change id change => withDocument r id (answerChange r change)
  | .revalidate id =>
    withDocument r id fun d => answerValidation bound r now (some d.id) (.str d.content)
  | .audit id => withDocument r id fun d => (auditResponse (r.auditOf (.integer d.id)), r)

/-- The answer to a request and the registry after it. -/
def handle (bound : DepthBound) (r : Registry) (request : Request) : Response × Registry :=
  match call request with
  | .ok c => answer bound r request.clock.recorded c
  | .error response => (response, r)

/-- An answer as it reaches a sender: to the method `HEAD` it has no body. -/
def sent (method : Text) (response : Response) : Response :=
  if method = "HEAD" then { response with body := .text [] } else response

end Rulebook.Service
