import Rulebook.Proofs.Service.ActiveVersion

/-!
# The audit log of a history

What every request owes to the audit log is told by the request, its answer and the documents that are
there (`owed`), and the ledger of a history is what its requests owe, one after the other. After every
history the audit log is the ledger with numbers from one on (`audit_registryAfter`).

`handle_owes` compares what is owed with what is recorded, outcome by outcome; it is also where the
entries of one document start from.
-/

set_option autoImplicit false

namespace Rulebook.Service

/-- What a record of the audit log is to say. -/
structure Entry where
  document : Option Int := none
  event : Text
  payload : Members
  time : Time

/-! ## Entries -/

namespace Entry

/-- The entry of a validation. -/
def run (time : Time) (document : Option Int) (verdict : Verdict) : Entry :=
  { document, event := validationEvent, payload := verdict.summary, time }

/-- The entry of a document that is not valid. -/
def rejected (time : Time) (name : Text) (version : Int) (verdict : Verdict) : Entry :=
  { event := rejectionEvent, payload := versionMembers name version ++ verdict.summary, time }

/-- The entry of a stored document. -/
def stored (time : Time) (document : Option Int) (name : Text) (version : Int) : Entry :=
  { document, event := storedEvent, payload := versionMembers name version, time }

/-- The record of an entry under a number. -/
def record (e : Entry) (id : Nat) : AuditRecord :=
  { id, document := e.document.map .integer, event := e.event, payload := .obj e.payload, time := e.time }

end Entry

/-- Entries as the records of an audit log, with numbers from one on. -/
def records (entries : List Entry) : List AuditRecord :=
  (entries.zipIdx 1).map fun e => e.1.record e.2

/-- What a request with its answer owes to the audit log: a validation for a text, a rejection for a
document that is not valid, a stored document for a confirmed creation, and a validation for a
document that is there, each with the time of the request. -/
def owed (bound : DepthBound) (r : Registry) (e : Exchange) : List Entry :=
  let now := e.request.clock.recorded
  match call e.request with
  | .ok (.validate content) => [.run now none (validate bound (.value content))]
  | .ok (.create new) =>
    let verdict := validate bound (.value (.str new.content))
    if !verdict.isValid then [.rejected now new.name new.version verdict]
    else if e.response.status = 201 then [.stored now e.response.shownId? new.name new.version]
    else []
  | .ok (.revalidate id) =>
    match r.find? id with
    | some d => [.run now (some id) (validate bound (.value (.str d.content)))]
    | none => []
  | _ => []

/-- What the requests of a history owe to the audit log, in their order. -/
def ledger (r : Registry) : History → List Entry
  | [] => []
  | (bound, request) :: rest =>
    owed bound r { request, response := (handle bound r request).1 } ++
      ledger (handle bound r request).2 rest

/-- The ledger of two histories is that of the one and then that of the other. -/
theorem ledger_append (r : Registry) (history more : History) :
    ledger r (history ++ more) = ledger r history ++ ledger (registryAfter r history) more := by
  induction history generalizing r with
  | nil => rfl
  | cons exchange rest ih =>
    simp only [List.cons_append, ledger, registryAfter, ih, List.append_assoc]

/-! ## Records -/

variable {bound : DepthBound} {r after : Registry} {request : Request} {response : Response}

/-- Further entries are recorded behind the ones before them. -/
theorem records_append (entries more : List Entry) :
    records (entries ++ more) =
      records entries ++ (more.zipIdx (1 + entries.length)).map fun e => e.1.record e.2 := by
  rw [records, List.zipIdx_append, List.map_append]
  rfl

/-- Records are numbered from one on. -/
theorem map_id_records (entries : List Entry) :
    (records entries).map AuditRecord.id = List.range' 1 entries.length := by
  rw [records, List.map_map, ← List.zipIdx_map_snd]
  rfl

/-- Recording an entry adds its record to the log. -/
theorem audit_record {entries : List Entry} (kept : r.audit = records entries) (e : Entry) :
    (r.record (e.document.map .integer) e.event (.obj e.payload) e.time).2.audit =
      records (entries ++ [e]) := by
  have next : Registry.nextId (r.audit.map AuditRecord.id) = 1 + entries.length := by
    rw [kept, map_id_records, Registry.nextId_range', Nat.add_comm]
  rw [records_append, ← kept, Registry.record, next]
  rfl

/-! ## One request -/

/-- Where an entry that a request owes comes from. -/
inductive Source (bound : DepthBound) (r : Registry) (request : Request) (after : Registry) :
    Entry → Prop where
  | text {content : Json} (called : call request = .ok (.validate content)) :
      Source bound r request after (.run request.clock.recorded none (validate bound (.value content)))
  | rejection {new : NewDocument} (called : call request = .ok (.create new)) :
      Source bound r request after
        (.rejected request.clock.recorded new.name new.version
          (validate bound (.value (.str new.content))))
  | creation {new : NewDocument} {d : StoredDocument}
      (called : call request = .ok (.create new)) (listed : d ∈ after.documents)
      (next : d.id = Registry.nextId (r.documents.map StoredDocument.id)) :
      Source bound r request after (.stored request.clock.recorded (some d.id) d.name d.version)
  | document {d : StoredDocument} (called : call request = .ok (.revalidate d.id))
      (listed : d ∈ r.documents) (same : after.documents = r.documents) :
      Source bound r request after
        (.run request.clock.recorded (some d.id) (validate bound (.value (.str d.content))))

/-- What a request owes and what is recorded for it: nothing, or one entry. -/
inductive Owes (bound : DepthBound) (r : Registry) (request : Request) (after : Registry) :
    List Entry → Prop where
  | nothing (audit : after.audit = r.audit)
      (unasked : ∀ d ∈ r.documents, call request ≠ .ok (.revalidate d.id)) :
      Owes bound r request after []
  | entry {e : Entry}
      (audit : after.audit =
        (r.record (e.document.map .integer) e.event (.obj e.payload) e.time).2.audit)
      (source : Source bound r request after e) : Owes bound r request after [e]

/-- Nothing is owed for a document that is not there. -/
theorem Owes.of_absent {c : Call} {id : Int} (called : call request = .ok c)
    (concerned : c.document? = some id) (absent : r.find? id = none) :
    Owes bound r request r (owed bound r { request, response }) := by
  have owes_nothing : owed bound r { request, response } = [] := by
    unfold owed
    rw [called]
    cases c with
    | revalidate other =>
      obtain rfl : other = id := Option.some.inj concerned
      simp only [absent]
    | create new => cases concerned
    | validate content => cases concerned
    | _ => rfl
  rw [owes_nothing]
  refine .nothing rfl fun d mem same => ?_
  obtain rfl : c = .revalidate d.id := Except.ok.inj (called.symm.trans same)
  obtain rfl : (d.id : Int) = id := Option.some.inj concerned
  have unlike := List.find?_eq_none.mp absent d mem
  simp at unlike

/-- Nothing is owed for a call that records nothing. -/
theorem Owes.of_silent {c : Call} (called : call request = .ok c)
    (silent : owed bound r { request, response } = []) (other : ∀ id, c ≠ .revalidate id)
    (audit : after.audit = r.audit) :
    Owes bound r request after (owed bound r { request, response }) := by
  rw [silent]
  refine .nothing audit fun d _ same => other d.id ?_
  exact Except.ok.inj (called.symm.trans same)

/-- Every outcome records what the request owes. -/
theorem Outcome.owes {c : Call} (outcome : Outcome bound r request.clock.recorded c response after)
    (called : call request = .ok c) (sound : r.Sound) :
    Owes bound r request after (owed bound r { request, response }) := by
  cases outcome with
  | validated =>
    simp only [owed, called]
    exact .entry rfl (.text called)
  | rejected invalid =>
    simp only [owed, called, invalid, Bool.not_false, if_true]
    exact .entry rfl (.rejection called)
  | @stored new d kept valid write =>
    have listed : d ∈ kept.documents := write.mem_documents.mpr (Or.inr rfl)
    have shown : (Response.mk 201 (.json d.toJson)).shownId? = some (d.id : Int) := rfl
    rw [Response.value_document write.encodable]
    simp only [owed, called, valid, Bool.not_true, Bool.false_eq_true, if_false, if_true, shown,
      ← write.name_eq, ← write.version_eq]
    refine .entry ?_ (.creation called listed write.id_eq)
    rw [write.registry]
    rfl
  | @unstored new fault valid refused =>
    -- The content is valid, so what decides is that the answer does not confirm.
    refine .of_silent called ?_ nofun rfl
    have unconfirmed : (refusal fault).status ≠ 201 := by
      rcases status_refusal fault with eq | eq <;> rw [eq] <;> decide
    simp only [owed, called, valid, Bool.not_true, Bool.false_eq_true, if_false, unconfirmed]
  | unknown concerned absent =>
    exact .of_absent called concerned (Registry.fetch_eq_none.mp absent).2
  | beyond concerned beyond =>
    -- The request is answered before the look-up, but no document could have been found.
    exact .of_absent called concerned (sound.find?_of_beyond beyond)
  | @revalidated id d found =>
    have there := (Registry.fetch_eq_some.mp found).2
    obtain ⟨mem, rfl⟩ := Registry.mem_of_find? there
    simp only [owed, called, there]
    exact .entry rfl (.document called mem rfl)
  | changed found write =>
    refine .of_silent called (by simp only [owed, called]) nofun ?_
    rw [write.registry]
  | _ => exact .of_silent called (by simp only [owed, called]) nofun rfl

/-- What every request owes is recorded, and nothing else is. -/
theorem handle_owes (bound : DepthBound) (request : Request) (sound : r.Sound) :
    Owes bound r request (handle bound r request).2
      (owed bound r { request, response := (handle bound r request).1 }) := by
  cases called : call request with
  | error response =>
    rw [handle_of_response called]
    simp only [owed, called]
    refine .nothing rfl fun d _ same => ?_
    cases called.symm.trans same
  | ok c => exact (handle_outcome called).owes called sound

/-! ## Histories -/

/-- An answer adds to the log what is owed for it. -/
theorem audit_handle (bound : DepthBound) (request : Request) (sound : r.Sound)
    {entries : List Entry} (kept : r.audit = records entries) :
    (handle bound r request).2.audit = records (entries ++
      owed bound r { request, response := (handle bound r request).1 }) := by
  have owes := handle_owes bound request sound
  generalize owed bound r { request, response := (handle bound r request).1 } = entry at owes ⊢
  cases owes with
  | nothing audit => rw [audit, kept, List.append_nil]
  | entry audit => rw [audit, audit_record kept]

/-- Induction on the history: the audit log so far is the entries so far, and each request adds what it
owes to both. -/
theorem audit_registryAfter_of_records (sound : r.Sound) {entries : List Entry}
    (kept : r.audit = records entries) (history : History) :
    (registryAfter r history).audit = records (entries ++ ledger r history) := by
  induction history generalizing r entries with
  | nil => rw [registryAfter, ledger, List.append_nil, kept]
  | cons exchange rest ih =>
    obtain ⟨bound, request⟩ := exchange
    have after := (handle_effect bound r request).sound sound
    have recorded := audit_handle bound request sound kept
    rw [registryAfter, ledger, ih after recorded, List.append_assoc]

/-- After a history that begins with an empty registry the audit log is the ledger. -/
theorem audit_registryAfter (history : History) :
    (registryAfter {} history).audit = records (ledger {} history) := by
  have empty : ({} : Registry).audit = records [] := rfl
  exact audit_registryAfter_of_records Registry.sound_empty empty history

end Rulebook.Service
