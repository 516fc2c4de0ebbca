import Rulebook.Document
import Rulebook.Registry.Clock
import Rulebook.Registry.Column

/-!
# The registry

The registry keeps documents and an audit log. A document has a name and a version, and no two
documents share both; of the documents of one name, a write that makes one active makes the others
inactive. Documents are never removed, so identifiers count up from one. A write either gives a new
registry or fails with a cause, and then nothing of it remains, the deactivation of other versions
included. The audit log only grows.
-/

set_option autoImplicit false

namespace Rulebook

/-- A stored document. -/
@[ext]
structure StoredDocument where
  id : Nat
  name : Text
  version : Int
  active : Bool
  content : Text
  notes : Option Text
  created : Time
deriving DecidableEq

/-- What a document is created from. -/
structure NewDocument where
  name : Text
  version : Int := 1
  active : Bool := true
  notes : Option Text := none
  content : Text
  /-- When the document is created, which no form says. -/
  created : Time := .epoch
deriving DecidableEq

/-- What becomes of a field in an update. -/
inductive Change (α : Type) where
  | keep
  | clear
  | set (value : α)
deriving DecidableEq

/-- What an update does to a document. -/
structure DocumentChange where
  active : Change Bool := .keep
  notes : Change Text := .keep
deriving DecidableEq

/-- A record of the audit log. -/
structure AuditRecord where
  id : Nat
  /-- The identifier of the document concerned, if there is one. -/
  document : Option Cell
  event : Text
  payload : Json
  time : Time
deriving DecidableEq

/-- The registry. -/
structure Registry where
  documents : List StoredDocument := []
  audit : List AuditRecord := []
deriving DecidableEq

namespace Registry

/-- The first identifier after those in use. -/
def nextId (ids : List Nat) : Nat := ids.foldl max 0 + 1

/-- The document with an identifier. -/
def find? (r : Registry) (id : Int) : Option StoredDocument :=
  r.documents.find? fun d => (d.id : Int) = id

/-- The document whose identifier is kept in a cell. -/
def findCell? (r : Registry) : Cell → Option StoredDocument
  | .integer id => r.find? id
  | _ => none

/-- The document with an identifier, which must fit in 64 bits. -/
def fetch (r : Registry) (id : Int) : Except StoreFault (Option StoredDocument) :=
  if fits id then .ok (r.find? id) else .error .outOfRange

/-- The documents with those of a name made inactive, except one that is kept. -/
def deactivateOthers (name : Text) (kept : Option Nat) (documents : List StoredDocument) :
    List StoredDocument :=
  documents.map fun d =>
    if d.name = name ∧ some d.id ≠ kept then { d with active := false } else d

/-- Whether a document of a name and a version is there. -/
def has (documents : List StoredDocument) (name : Text) (version : Int) : Bool :=
  documents.any fun d => d.name = name && d.version = version

/-- Adds a document at the end under the next identifier, unless one of its name and version is
there. Its version and its identifier must fit in 64 bits. -/
def insert (new : NewDocument) (documents : List StoredDocument) :
    Except StoreFault (StoredDocument × List StoredDocument) :=
  let id := nextId (documents.map StoredDocument.id)
  if !(fits new.version && fits id) then .error .outOfRange
  else if !(new.name.isEncodable && new.content.isEncodable && new.notes.all Text.isEncodable) then
    .error .unencodable
  else if has documents new.name new.version then .error .duplicate
  else
    let d : StoredDocument :=
      { id
        name := new.name
        version := new.version
        active := new.active
        content := new.content
        notes := new.notes
        created := new.created }
    .ok (d, documents ++ [d])

/-- Creates a document; if it is active, the other documents of its name become inactive. -/
def create (r : Registry) (new : NewDocument) : Except StoreFault (StoredDocument × Registry) :=
  let documents :=
    if new.active then deactivateOthers new.name none r.documents else r.documents
  match insert new documents with
  | .ok (d, documents) => .ok (d, { r with documents })
  | .error fault => .error fault

/-- A document after a change. Whether it is active cannot be cleared. -/
def changed (d : StoredDocument) (change : DocumentChange) : Except StoreFault StoredDocument :=
  let notes : Option Text :=
    match change.notes with
    | .keep => d.notes
    | .clear => none
    | .set t => some t
  if !notes.all Text.isEncodable then .error .unencodable
  else
    match change.active with
    | .keep => .ok { d with notes }
    | .set active => .ok { d with active, notes }
    | .clear => .error .nullField

/-- Changes a document; if it becomes active, the other documents of its name become inactive. -/
def change (r : Registry) (d : StoredDocument) (c : DocumentChange) :
    Except StoreFault (StoredDocument × Registry) :=
  let documents :=
    if c.active = .set true then deactivateOthers d.name (some d.id) r.documents else r.documents
  match changed d c with
  | .error fault => .error fault
  | .ok after =>
    .ok (after, { r with documents := documents.map fun x => if x.id = d.id then after else x })

/-- The order of a listing: by name, then by version from the latest on. -/
def listsBefore (a b : StoredDocument) : Bool :=
  if a.name = b.name then b.version ≤ a.version else Text.ble a.name b.name

/-- The documents of a name, or all of them, in the order of a listing. -/
def list (r : Registry) (name : Option Text) : List StoredDocument :=
  (r.documents.filter fun d => name.all (d.name = ·)).mergeSort listsBefore

/-- Adds a record to the audit log. -/
def record (r : Registry) (document : Option Cell) (event : Text) (payload : Json) (time : Time) :
    AuditRecord × Registry :=
  let entry : AuditRecord :=
    { id := nextId (r.audit.map AuditRecord.id), document, event, payload, time }
  (entry, { r with audit := r.audit ++ [entry] })

/-- Adds a record to the audit log if its event has a value. -/
def recordEvent (r : Registry) (document : Option Cell) (event : Option Text) (payload : Json)
    (time : Time := .epoch) : Except StoreFault (AuditRecord × Registry) :=
  match event with
  | some event => .ok (r.record document event payload time)
  | none => .error .nullField

/-- The records of the audit log that concern a document. -/
def auditOf (r : Registry) (document : Cell) : List AuditRecord :=
  r.audit.filter fun entry => entry.document.any document.same

end Registry

end Rulebook
