import Rulebook.Registry.Form

/-!
# Showing the registry

Documents and audit records as answers show them. A record can be shown only if the identifier that
it keeps reads as an integer in a form and if its payload is an object that is not too high.
-/

set_option autoImplicit false

namespace Rulebook

namespace Registry

/-- Stands for a time where answers of different runs are compared: no rule of the registry depends on
the clock. -/
def timestamp : Json := .str "<timestamp>"

end Registry

/-- A document as answers show it. -/
def StoredDocument.toJson (d : StoredDocument) : Json :=
  .obj [
    ("name", .str d.name),
    ("version", .int d.version),
    ("is_active", .bool d.active),
    ("notes", (d.notes.map Json.str).getD .null),
    ("id", .int d.id),
    ("content", .str d.content),
    ("created_at", .str d.created.text)]

/-- Why an audit record cannot be shown. -/
inductive ShowFault where
  /-- What is kept as the identifier of a document is no integer. -/
  | unreadableDocument
  /-- The payload is no object. -/
  | notObject
  /-- The payload holds values too deep inside. -/
  | tooDeep
deriving DecidableEq, Repr

/-- The greatest height of a payload that can be shown. -/
def payloadHeight : Nat := 256

/-- What a record shows as the identifier of a document. -/
def Cell.shown : Option Cell → Except ShowFault Json
  | none => .ok .null
  | some cell =>
    match Form.readInteger cell.toJson with
    | .ok n => .ok (.int n)
    | .error _ => .error .unreadableDocument

/-- What a record shows as its payload. -/
def AuditRecord.shownPayload (a : AuditRecord) : Except ShowFault Json :=
  match a.payload with
  | .obj _ => if payloadHeight < a.payload.height then .error .tooDeep else .ok a.payload
  | _ => .error .notObject

/-- An audit record as answers show it. -/
def AuditRecord.toJson (a : AuditRecord) : Except ShowFault Json :=
  match Cell.shown a.document, a.shownPayload with
  | .error fault, _ => .error fault
  | _, .error fault => .error fault
  | .ok document, .ok payload =>
    .ok (.obj [
      ("id", .int a.id),
      ("timestamp", .str a.time.text),
      ("document_id", document),
      ("event_type", .str a.event),
      ("payload", payload)])

end Rulebook
