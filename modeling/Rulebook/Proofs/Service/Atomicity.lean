import Rulebook.Proofs.Registry.Session
import Rulebook.Proofs.Service.ActiveVersion
import Rulebook.Proofs.Service.Calls

/-!
# Writes that fail

A creation or a change that is not confirmed leaves every document as it is, and the audit log too,
but for the record of a creation that is rejected because its content is not valid.

The documents go by the session of the request: what a request leaves is what its session has
committed (`documents_handle`), and a session that meets a fault has committed nothing. In a sound
registry every session without a fault is confirmed, since a stored document can always be sent.
-/

set_option autoImplicit false

namespace Rulebook

/-- Whether an answer confirms what was asked for. -/
def Response.isSuccess (response : Response) : Bool :=
  200 ≤ response.status && response.status < 300

namespace Service

/-- A request that is to create or to change a document. -/
def IsWrite (request : Request) : Prop :=
  request.method = "POST" ∧ route? request.target.path = some .collection ∨
    request.method = "PATCH" ∧ ∃ id, route? request.target.path = some (.document id)

variable {bound : DepthBound} {r : Registry} {request : Request} {now : Time}

/-- The call of such a request creates or changes a document. -/
theorem IsWrite.call_cases (write : IsWrite request) {c : Call} (called : call request = .ok c) :
    (∃ new, c = .create new) ∨ ∃ id x, c = .change id x := by
  rcases write with ⟨method, route⟩ | ⟨method, id, route⟩
  · rw [call, route] at called
    simp only [routeCall, method, if_true] at called
    obtain ⟨payload, new, -, -, creates⟩ := exists_of_form called
    exact Or.inl ⟨_, creates⟩
  · have other : ("PATCH" : Text) ≠ "GET" := by decide
    rw [call, route] at called
    simp only [routeCall, method, other, if_true, if_false] at called
    obtain ⟨payload, -, made⟩ := exists_of_bodyCall called
    obtain ⟨id, change, -, -, changes⟩ := exists_of_changeForm made
    exact Or.inr ⟨id, change, changes⟩

/-! ## Sessions of requests -/

/-- The statements on documents that a request leads to. -/
def statements (bound : DepthBound) (r : Registry) (request : Request) : List Statement :=
  match call request with
  | .ok (.create new) =>
    if (validate bound (.value (.str new.content))).isValid then
      Registry.creation new ++ [.commit]
    else []
  | .ok (.change id c) =>
    match r.fetch id with
    | .ok (some d) => Registry.alteration d c ++ [.commit]
    | _ => []
  | _ => []

/-- The session of a request, and its fault. -/
def session (bound : DepthBound) (r : Registry) (request : Request) :
    Session × Option StoreFault :=
  (Session.start r.documents).run (statements bound r request)

/-- The session of a request that writes no document. -/
theorem session_of_no_statements (silent : statements bound r request = []) :
    session bound r request = (Session.start r.documents, none) := by
  rw [session, silent]
  rfl

/-- The session of a creation of a valid document. -/
theorem session_creation {new : NewDocument} (called : call request = .ok (.create new))
    (valid : (validate bound (.value (.str new.content))).isValid = true) :
    session bound r request =
      (Session.start r.documents).run (Registry.creation new ++ [.commit]) := by
  simp only [session, statements, called, valid, if_true]

/-- The session of a change of a document that is there. -/
theorem session_alteration {id : Int} {c : DocumentChange} {d : StoredDocument}
    (called : call request = .ok (.change id c)) (found : r.fetch id = .ok (some d)) :
    session bound r request =
      (Session.start r.documents).run (Registry.alteration d c ++ [.commit]) := by
  simp only [session, statements, called, found]

/-- A request about a document that is not there writes no document. -/
theorem statements_of_absent {c : Call} {id : Int} (called : call request = .ok c)
    (concerned : c.document? = some id) (absent : ∀ d, r.fetch id ≠ .ok (some d)) :
    statements bound r request = [] := by
  unfold statements
  rw [called]
  cases c with
  | change other x =>
    obtain rfl : other = id := Option.some.inj concerned
    dsimp only
    split
    · next d found => exact absurd found (absent d)
    · rfl
  | create new => cases concerned
  | _ => rfl

/-- What an outcome leaves of the documents is what the session of the request has committed. -/
theorem Outcome.documents_eq {c : Call} {response : Response} {after : Registry}
    (outcome : Outcome bound r now c response after) (called : call request = .ok c) :
    after.documents = (session bound r request).1.committed := by
  have silent {after : Registry} (none_written : statements bound r request = [])
      (same : after.documents = r.documents) :
      after.documents = (session bound r request).1.committed := by
    rw [session_of_no_statements none_written]
    exact same
  cases outcome with
  | stored valid write =>
    rw [session_creation called valid, Registry.committed_creation, Registry.create_eq_ok.mpr write]
    rfl
  | unstored valid refused =>
    rw [session_creation called valid, Registry.committed_creation, refused]
    rfl
  | changed found write =>
    rw [session_alteration called found, Registry.committed_alteration,
      Registry.change_eq_ok.mpr write]
    rfl
  | unchanged found refused =>
    rw [session_alteration called found, Registry.committed_alteration, refused]
    rfl
  | unknown concerned absent =>
    refine silent (statements_of_absent called concerned fun d found => ?_) rfl
    cases absent.symm.trans found
  | beyond concerned beyond =>
    obtain ⟨fault, beyond⟩ := Registry.fetch_eq_error.mpr beyond
    refine silent (statements_of_absent called concerned fun d found => ?_) rfl
    cases beyond.symm.trans found
  | rejected invalid => exact silent (by simp [statements, called, invalid]) rfl
  | _ => exact silent (by simp only [statements, called]) rfl

/-- What a request leaves of the documents is what its session has committed. -/
theorem documents_handle (bound : DepthBound) (r : Registry) (request : Request) :
    (handle bound r request).2.documents = (session bound r request).1.committed := by
  cases called : call request with
  | error response =>
    rw [handle_of_response called, session_of_no_statements (by simp only [statements, called])]
    rfl
  | ok c => exact (handle_outcome called).documents_eq called

/-! ## What a failed write leaves -/

/-- An answer with a document that can be encoded confirms it. -/
theorem isSuccess_document {status : Nat} (confirms : 200 ≤ status ∧ status < 300)
    {d : StoredDocument} (encodable : d.IsEncodable) :
    (Response.value status d.toJson).isSuccess = true := by
  rw [Response.value_document encodable]
  simp [Response.isSuccess, confirms]

/-- A change of a document of a sound registry is confirmed. -/
theorem isSuccess_of_changed (sound : r.Sound) {id : Int} {c : DocumentChange}
    {d d' : StoredDocument} {after : Registry} (found : r.fetch id = .ok (some d))
    (write : Registry.Changed r d c d' after) : (Response.value 200 d'.toJson).isSuccess = true := by
  have mem := (Registry.mem_of_find? (Registry.fetch_eq_some.mp found).2).1
  have listed : d' ∈ after.documents := (write.mem_documents mem).mpr (Or.inl rfl)
  exact isSuccess_document (by decide) ((sound.changed mem write).encodable d' listed)

/-- A session has committed nothing unless its request is confirmed. -/
theorem Outcome.committed_of_failed {c : Call} {response : Response} {after : Registry}
    (outcome : Outcome bound r now c response after) (called : call request = .ok c) (sound : r.Sound)
    (failed : response.isSuccess = false) : (session bound r request).1.committed = r.documents := by
  have silent (none_written : statements bound r request = []) :
      (session bound r request).1.committed = r.documents := by
    rw [session_of_no_statements none_written]
    rfl
  cases outcome with
  | stored valid write =>
    have confirmed : (Response.value 201 _).isSuccess = true :=
      isSuccess_document (by decide) write.encodable
    rw [confirmed] at failed
    cases failed
  | changed found write =>
    have confirmed := isSuccess_of_changed sound found write
    rw [confirmed] at failed
    cases failed
  -- By now the others of the name may be inactive in the session, but not for anyone else.
  | unstored valid refused =>
    rw [session_creation called valid, Registry.committed_creation, refused]
    rfl
  | unchanged found refused =>
    rw [session_alteration called found, Registry.committed_alteration, refused]
    rfl
  | unknown concerned absent =>
    refine silent (statements_of_absent called concerned fun d found => ?_)
    cases absent.symm.trans found
  | beyond concerned beyond =>
    obtain ⟨fault, beyond⟩ := Registry.fetch_eq_error.mpr beyond
    refine silent (statements_of_absent called concerned fun d found => ?_)
    cases beyond.symm.trans found
  | rejected invalid => exact silent (by simp [statements, called, invalid])
  | _ => exact silent (by simp only [statements, called])

/-- A request that is not confirmed leaves every document as it is. -/
theorem documents_of_failed (sound : r.Sound)
    (failed : (handle bound r request).1.isSuccess = false) :
    (handle bound r request).2.documents = r.documents := by
  cases called : call request with
  | error response => rw [handle_of_response called]
  | ok c =>
    rw [documents_handle]
    exact (handle_outcome called).committed_of_failed called sound failed

/-- A creation that is not confirmed is recorded if its content is not valid, and only then. -/
theorem Outcome.audit_of_failed_creation {new : NewDocument} {response : Response} {after : Registry}
    (outcome : Outcome bound r now (.create new) response after)
    (failed : response.isSuccess = false) :
    after.audit = r.audit ++
      if (validate bound (.value (.str new.content))).isValid then []
      else
        [(r.record none rejectionEvent (.obj (versionMembers new.name new.version ++
          (validate bound (.value (.str new.content))).summary)) now).1] := by
  cases outcome with
  | stored valid write =>
    have confirmed : (Response.value 201 _).isSuccess = true :=
      isSuccess_document (by decide) write.encodable
    rw [confirmed] at failed
    cases failed
  | unstored valid refused => rw [if_pos valid, List.append_nil]
  | rejected invalid =>
    rw [if_neg (by rw [invalid]; exact Bool.false_ne_true)]
    rfl
  | unknown concerned absent => cases concerned
  | beyond concerned beyond => cases concerned

/-- A change leaves the audit log as it is. -/
theorem Outcome.audit_of_change {id : Int} {c : DocumentChange} {response : Response}
    {after : Registry} (outcome : Outcome bound r now (.change id c) response after) :
    after.audit = r.audit := by
  cases outcome with
  | changed found write => rw [write.registry]
  | _ => rfl

/-- A creation or a change that is not confirmed leaves every document as it is: what a request leaves is
what its session has committed, and by then the session has committed what was there. So a version that is
there already leaves the active version of its name active and takes no identifier. The audit log gets
one record of a creation whose content is not valid, without a document, and nothing else. -/
theorem failed_write_leaves_registry (history : History) (bound : DepthBound) (request : Request)
    (write : IsWrite request)
    (failed : (handle bound (registryAfter {} history) request).1.isSuccess = false) :
    let r := registryAfter {} history
    let response := (handle bound r request).1
    let after := (handle bound r request).2
    after.documents = (session bound r request).1.committed ∧
    (session bound r request).1.committed = r.documents ∧
    after.documents = r.documents ∧
    (∀ new, call request = .ok (.create new) → response.status = 409 →
      after.activeOf new.name = r.activeOf new.name ∧
      ∀ later d next, after.create later = .ok (d, next) → d.id = r.documents.length + 1) ∧
    (∀ new, call request = .ok (.create new) →
      (validate bound (.value (.str new.content))).isValid = false →
      ∃ id, after.audit = r.audit ++ [{
        id, document := none, event := rejectionEvent
        payload := .obj (versionMembers new.name new.version ++
          (validate bound (.value (.str new.content))).summary)
        time := request.clock.recorded }]) ∧
    ((∀ new, call request = .ok (.create new) →
      (validate bound (.value (.str new.content))).isValid = true) → after.audit = r.audit) := by
  intro r response after
  have sound : r.Sound := sound_after history
  have documents : after.documents = r.documents := documents_of_failed sound failed
  have creation {new : NewDocument} (called : call request = .ok (.create new)) :
      after.audit = r.audit ++
        if (validate bound (.value (.str new.content))).isValid then []
        else
          [(r.record none rejectionEvent (.obj (versionMembers new.name new.version ++
            (validate bound (.value (.str new.content))).summary)) request.clock.recorded).1] :=
    (handle_outcome called).audit_of_failed_creation failed
  have committed : after.documents = (session bound r request).1.committed :=
    documents_handle bound r request
  refine ⟨committed, committed.symm.trans documents, documents,
    fun new called conflict => ⟨?_, fun later d next created => ?_⟩, fun new called invalid => ?_,
    fun valid => ?_⟩
  · rw [Registry.activeOf, Registry.activeOf, documents]
  · rw [(Registry.create_eq_ok.mp created).document, NewDocument.stored, documents, sound.nextId_eq]
  · have recorded := creation called
    rw [invalid] at recorded
    exact ⟨_, recorded⟩
  -- Only a creation writes to the log when it fails, and no content of one is invalid here.
  · cases called : call request with
    | error response => exact congrArg Registry.audit (congrArg Prod.snd (handle_of_response called))
    | ok c =>
      rcases write.call_cases called with ⟨new, rfl⟩ | ⟨id, x, rfl⟩
      · have recorded := creation called
        rw [valid new called] at recorded
        exact recorded.trans (List.append_nil _)
      · exact (handle_outcome called).audit_of_change

/-- A second creation of the first version of a name, after a second version has become active: it
conflicts, the second version stays active, and nothing is recorded. -/
theorem conflict_leaves_registry :
    let creation (version : Int) : Request := {
      method := "POST", target := { path := "/rule-sets", query := [] }
      body := some (.json (.obj [("name", .str "a"), ("version", .int version),
        ("content", .str "[]")])) }
    let history : History := [(.integer 64, creation 1), (.integer 64, creation 2)]
    IsWrite (creation 1) ∧
      (handle (.integer 64) (registryAfter {} history) (creation 1)).1.status = 409 ∧
      (handle (.integer 64) (registryAfter {} history) (creation 1)).2.documents =
        (registryAfter {} history).documents ∧
      ((registryAfter {} history).documents.map fun d => (d.id, d.version, d.active)) =
        [(1, 1, false), (2, 2, true)] ∧
      (handle (.integer 64) (registryAfter {} history) (creation 1)).2.audit =
        (registryAfter {} history).audit := by
  intro creation history
  have write : IsWrite (creation 1) := Or.inl ⟨rfl, rfl⟩
  have called : call (creation 1) = .ok (.create { name := "a", content := "[]" }) := rfl
  have failed : (handle (.integer 64) (registryAfter {} history) (creation 1)).1.isSuccess = false := by
    decide +kernel
  have left := failed_write_leaves_registry history (.integer 64) (creation 1) write failed
  refine ⟨write, by decide +kernel, left.2.2.1, by decide +kernel, left.2.2.2.2.2 fun new same => ?_⟩
  cases called.symm.trans same
  decide +kernel

end Service

end Rulebook
