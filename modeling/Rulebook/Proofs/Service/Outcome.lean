import Rulebook.Service.Answer
import Rulebook.Proofs.Registry.Display

/-!
# Outcomes of a call

Everything that a call may come to: its answer and the registry after it, with what decides between
them. `answer_outcome` is the one place that looks into the answers of the service; whatever is said
of documents, of the audit log or of statuses goes by the cases of `Outcome`.

A request that makes no call is answered at once and leaves the registry as it is.
-/

set_option autoImplicit false

namespace Rulebook

/-- The identifier of the document that a call concerns. -/
def Call.document? : Call → Option Int
  | .fetch id | .change id _ | .revalidate id | .audit id => some id
  | _ => none

namespace Registry

variable {r : Registry} {id : Int} {d : StoredDocument}

/-- A document that is found is in the registry under the identifier that was asked for. -/
theorem mem_of_find? (h : r.find? id = some d) : d ∈ r.documents ∧ (d.id : Int) = id :=
  ⟨List.mem_of_find?_eq_some h, by simpa using List.find?_some h⟩

/-- A document is fetched if its identifier fits and is there. -/
theorem fetch_eq_some : r.fetch id = .ok (some d) ↔ fits id = true ∧ r.find? id = some d := by
  unfold fetch
  split <;> simp [*]

/-- A document is absent if its identifier fits and is not there. -/
theorem fetch_eq_none : r.fetch id = .ok none ↔ fits id = true ∧ r.find? id = none := by
  unfold fetch
  split <;> simp [*]

/-- A fetch fails exactly if the identifier does not fit. -/
theorem fetch_eq_error : (∃ fault, r.fetch id = .error fault) ↔ fits id = false := by
  unfold fetch
  split <;> simp [*]

/-- A document is looked up under its identifier. -/
theorem Sound.fetch_id (h : r.Sound) (mem : d ∈ r.documents) : r.fetch d.id = .ok (some d) :=
  fetch_eq_some.mpr ⟨h.fits_id mem, h.find?_id mem⟩

/-- No document has an identifier that does not fit in 64 bits. -/
theorem Sound.find?_of_beyond (h : r.Sound) (beyond : fits id = false) : r.find? id = none := by
  cases found : r.find? id with
  | none => rfl
  | some d =>
    obtain ⟨mem, rfl⟩ := mem_of_find? found
    rw [h.fits_id mem] at beyond
    cases beyond

end Registry

/-- The form of the answer to a validation with a verdict. -/
def Verdict.form : Verdict → VerdictForm
  | .valid => { valid := true, errors := none, critical := none }
  | .invalid errors => { valid := false, errors := some errors, critical := none }
  | .critical cause => { valid := false, errors := none, critical := some cause.message }

namespace VerdictForm

/-- Texts are read as they are. -/
theorem mapM_text? (texts : List Text) : (texts.map Json.str).mapM text? = some texts := by
  induction texts with
  | nil => rfl
  | cons t rest ih =>
    rw [List.map_cons, List.mapM_cons, ih]
    rfl

/-- Every verdict fits the form. -/
theorem ofJson?_verdict (verdict : Verdict) : ofJson? verdict.toJson = some verdict.form := by
  cases verdict with
  | valid => rfl
  | critical cause => rfl
  | invalid errors =>
    let shown : Json := .arr (errors.map .str)
    have found : Members.get? [("valid", .bool false), ("errors", shown)] "errors" = some shown := rfl
    have read : nullable? texts? (some shown) = some (some errors) :=
      congrArg (Option.map some) (mapM_text? errors)
    change ofMembers? [("valid", .bool false), ("errors", shown)] = _
    rw [ofMembers?, found, read]
    rfl

/-- The form shows what the verdict shows: what it leaves out is what the verdict does not have. -/
theorem toJson_form (verdict : Verdict) : verdict.form.toJson = verdict.toJson := by
  cases verdict <;> rfl

end VerdictForm

/-- A value that can be sent is answered as it is. -/
theorem Response.value_of_isTransmissible {status : Nat} {v : Json}
    (h : v.isTransmissible = true) : Response.value status v = { status, body := .json v } :=
  if_pos h

/-- A document that can be encoded is answered as it is. -/
theorem Response.value_document {status : Nat} {d : StoredDocument} (h : d.IsEncodable) :
    Response.value status d.toJson = { status, body := .json d.toJson } :=
  value_of_isTransmissible (StoredDocument.isTransmissible_toJson h)

namespace Service

/-- The answer to a validation shows the verdict as it is. -/
theorem verdictResponse_eq (verdict : Verdict) :
    verdictResponse verdict = .value 200 verdict.toJson := by
  rw [verdictResponse, VerdictForm.ofJson?_verdict]
  dsimp only
  rw [VerdictForm.toJson_form]

/-- The answer to a creation that the registry refuses. -/
def refusal : StoreFault → Response
  | .duplicate => duplicateVersion
  | _ => .failure

/-- What a call may come to: its answer and the registry after it. -/
inductive Outcome (bound : DepthBound) (r : Registry) (now : Time) :
    Call → Response → Registry → Prop where
  | validated {content : Json} :
      Outcome bound r now (.validate content) (.value 200 (validate bound (.value content)).toJson)
        (r.record none validationEvent (.obj (validate bound (.value content)).summary) now).2
  | conditions : Outcome bound r now .conditions (.value 200 conditionsJson) r
  | schema : Outcome bound r now .schema (.value 200 Schema.exported) r
  | listed {name : Option Text} :
      Outcome bound r now (.list name) (.value 200 (.arr ((r.list name).map StoredDocument.toJson))) r
  | rejected {new : NewDocument}
      (invalid : (validate bound (.value (.str new.content))).isValid = false) :
      Outcome bound r now (.create new)
        (.value 422 (.obj [("detail", (validate bound (.value (.str new.content))).toJson)]))
        (r.record none rejectionEvent (.obj (versionMembers new.name new.version ++
          (validate bound (.value (.str new.content))).summary)) now).2
  | stored {new : NewDocument} {d : StoredDocument} {after : Registry}
      (valid : (validate bound (.value (.str new.content))).isValid = true)
      (write : Registry.Created r new d after) :
      Outcome bound r now (.create new) (.value 201 d.toJson)
        (after.record (some (.integer d.id)) storedEvent
          (.obj (versionMembers d.name d.version)) now).2
  | unstored {new : NewDocument} {fault : StoreFault}
      (valid : (validate bound (.value (.str new.content))).isValid = true)
      (refused : r.create new = .error fault) :
      Outcome bound r now (.create new) (refusal fault) r
  | beyond {c : Call} {id : Int} (concerned : c.document? = some id)
      (beyond : Registry.fits id = false) : Outcome bound r now c .failure r
  | unknown {c : Call} {id : Int} (concerned : c.document? = some id)
      (absent : r.fetch id = .ok none) : Outcome bound r now c unknownDocument r
  | fetched {id : Int} {d : StoredDocument} (found : r.fetch id = .ok (some d)) :
      Outcome bound r now (.fetch id) (.value 200 d.toJson) r
  | changed {id : Int} {c : DocumentChange} {d d' : StoredDocument} {after : Registry}
      (found : r.fetch id = .ok (some d)) (write : Registry.Changed r d c d' after) :
      Outcome bound r now (.change id c) (.value 200 d'.toJson) after
  | unchanged {id : Int} {c : DocumentChange} {d : StoredDocument} {fault : StoreFault}
      (found : r.fetch id = .ok (some d)) (refused : r.change d c = .error fault) :
      Outcome bound r now (.change id c) .failure r
  | revalidated {id : Int} {d : StoredDocument} (found : r.fetch id = .ok (some d)) :
      Outcome bound r now (.revalidate id)
        (.value 200 (validate bound (.value (.str d.content))).toJson)
        (r.record (some (.integer d.id)) validationEvent
          (.obj (validate bound (.value (.str d.content))).summary) now).2
  | audited {id : Int} {d : StoredDocument} (found : r.fetch id = .ok (some d)) :
      Outcome bound r now (.audit id) (auditResponse (r.auditOf (.integer d.id))) r

variable {bound : DepthBound} {r : Registry} {now : Time}

/-- What is to be done with a document is done with the one that is fetched. -/
theorem withDocument_of_found {id : Int} {d : StoredDocument} (found : r.fetch id = .ok (some d))
    {act : StoredDocument → Response × Registry} : withDocument r id act = act d := by
  rw [withDocument, found]

/-- A call that concerns a document comes to what is done with the document if there is one. -/
theorem withDocument_outcome {c : Call} {id : Int} (concerned : c.document? = some id)
    {act : StoredDocument → Response × Registry}
    (found : ∀ d, r.fetch id = .ok (some d) → Outcome bound r now c (act d).1 (act d).2) :
    Outcome bound r now c (withDocument r id act).1 (withDocument r id act).2 := by
  rw [withDocument]
  split
  · next fault beyond => exact .beyond concerned (Registry.fetch_eq_error.mp ⟨fault, beyond⟩)
  · next absent => exact .unknown concerned absent
  · next d there => exact found d there

/-- The answer to a creation is one of its outcomes. -/
theorem answerCreate_outcome (new : NewDocument) :
    Outcome bound r now (.create new) (answerCreate bound r now new).1 (answerCreate bound r now new).2 := by
  rw [answerCreate]
  split
  · next valid =>
    cases written : r.create new with
    | ok result => exact .stored valid (Registry.create_eq_ok.mp written)
    | error fault =>
      have outcome : Outcome bound r now (.create new) (refusal fault) r := .unstored valid written
      cases fault with
      | duplicate => exact outcome
      | _ => exact outcome
  · next invalid => exact .rejected (Bool.not_eq_true _ ▸ invalid)

/-- The answer to a change of a document that is there is one of its outcomes. -/
theorem answerChange_outcome {id : Int} {c : DocumentChange} {d : StoredDocument}
    (found : r.fetch id = .ok (some d)) :
    Outcome bound r now (.change id c) (answerChange r c d).1 (answerChange r c d).2 := by
  rw [answerChange]
  cases written : r.change d c with
  | ok result => exact .changed found (Registry.change_eq_ok.mp written)
  | error fault => exact .unchanged found written

/-- A validation answers with the verdict on the text and records it. -/
theorem answerValidation_eq (document : Option Nat) (content : Json) :
    answerValidation bound r now document content =
      (.value 200 (validate bound (.value content)).toJson,
        (r.record (document.map fun id => .integer id) validationEvent
          (.obj (validate bound (.value content)).summary) now).2) := by
  rw [answerValidation]
  dsimp only
  rw [verdictResponse_eq]

/-- Every call has one of the outcomes. -/
theorem answer_outcome (bound : DepthBound) (r : Registry) (now : Time) (c : Call) :
    Outcome bound r now c (answer bound r now c).1 (answer bound r now c).2 := by
  cases c with
  | validate content =>
    rw [answer, answerValidation_eq]
    exact .validated
  | conditions =>
    dsimp only [answer]
    exact .conditions
  | schema =>
    dsimp only [answer]
    exact .schema
  | create new => exact answerCreate_outcome new
  | list name => exact .listed
  | fetch id => exact withDocument_outcome rfl fun d found => .fetched found
  | change id c => exact withDocument_outcome rfl fun d found => answerChange_outcome found
  | revalidate id =>
    refine withDocument_outcome rfl fun d found => ?_
    rw [answerValidation_eq]
    exact .revalidated found
  | audit id => exact withDocument_outcome rfl fun d found => .audited found

/-- A request that makes a call is answered as the call is. -/
theorem handle_of_call {request : Request} {c : Call} (called : call request = .ok c) :
    handle bound r request = answer bound r request.clock.recorded c := by
  rw [handle, called]

/-- A request that makes no call leaves the registry as it is. -/
theorem handle_of_response {request : Request} {response : Response}
    (called : call request = .error response) : handle bound r request = (response, r) := by
  rw [handle, called]

/-- The outcome of a request that makes a call. -/
theorem handle_outcome {request : Request} {c : Call} (called : call request = .ok c) :
    Outcome bound r request.clock.recorded c (handle bound r request).1 (handle bound r request).2 := by
  rw [handle_of_call called]
  exact answer_outcome bound r request.clock.recorded c

end Service

end Rulebook
