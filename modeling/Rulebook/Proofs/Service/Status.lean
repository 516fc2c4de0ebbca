import Rulebook.Proofs.Service.Trail

/-!
# The statuses of answers

The status that a call is meant to have depends on the documents that are there and on whether a
content is valid (`meantStatus`). A call does not have it if it fails, and `fails` says when it does:
an integer does not fit in 64 bits, a text to be stored or sent cannot be encoded, or a change clears
whether a document is active, which is allowed as a form but not as a document. In every other case
the answer has the status that is meant, after every history (`status_of_call`).

Only a creation tells the registry's refusals apart; a change lets them all escape. `clearing_escapes`
is the smallest such case.
-/

set_option autoImplicit false

namespace Rulebook

/-- Whether a document can be stored is told by its fields. -/
instance {new : NewDocument} {id : Nat} : Decidable (Registry.IsStorable new id) :=
  decidable_of_iff' _ Registry.isStorable_iff

namespace Service

variable {bound : DepthBound} {r after : Registry} {request : Request} {response : Response}

/-- The status that the answer to a call is meant to have. -/
def meantStatus (bound : DepthBound) (r : Registry) : Call → Nat
  | .validate _ | .conditions | .schema | .list _ => 200
  | .create new =>
    if !(validate bound (.value (.str new.content))).isValid then 422
    else if Registry.has r.documents new.name new.version then 409
    else 201
  | .fetch id | .change id _ | .revalidate id | .audit id =>
    if (r.find? id).isSome then 200 else 404

/-- Whether a call fails: what is to be looked up or stored is beyond the registry, or what is to be
answered cannot be sent. -/
def fails (bound : DepthBound) (r : Registry) : Call → Bool
  | .validate content => !(validate bound (.value content)).toJson.isTransmissible
  | .conditions | .schema | .list _ => false
  | .create new =>
    let verdict := validate bound (.value (.str new.content))
    if verdict.isValid then !decide (Registry.IsStorable new (r.documents.length + 1))
    else !verdict.toJson.isTransmissible
  | .fetch id | .audit id => !Registry.fits id
  | .change id c =>
    !Registry.fits id || (r.find? id).any fun d =>
      c.active = .clear || !(c.notes.over d.notes).all Text.isEncodable
  | .revalidate id =>
    !Registry.fits id || (r.find? id).any fun d =>
      !(validate bound (.value (.str d.content))).toJson.isTransmissible

/-- An answer has its status unless its value cannot be sent. -/
theorem status_value_eq (status : Nat) (v : Json) :
    (Response.value status v).status = if !v.isTransmissible then 500 else status := by
  unfold Response.value
  cases v.isTransmissible <;> rfl

/-- A document that can be encoded can be sent. -/
theorem status_document (status : Nat) {d : StoredDocument} (encodable : d.IsEncodable) :
    (Response.value status d.toJson).status = status := by
  rw [Response.value_document encodable]

/-- A listing has stored documents only. -/
theorem mem_of_mem_list {name : Option Text} {d : StoredDocument} (h : d ∈ r.list name) :
    d ∈ r.documents := by
  rw [Registry.list, List.mem_mergeSort] at h
  exact List.mem_of_mem_filter h

/-- A listing can always be sent. -/
theorem isTransmissible_list (sound : r.Sound) (name : Option Text) :
    (Json.arr ((r.list name).map StoredDocument.toJson)).isTransmissible = true := by
  refine Json.isTransmissible_arr.mpr fun item mem => ?_
  obtain ⟨d, listed, rfl⟩ := List.mem_map.mp mem
  exact StoredDocument.isTransmissible_toJson (sound.encodable d (mem_of_mem_list listed))

/-- A listing is always confirmed. -/
theorem status_list (sound : r.Sound) (name : Option Text) :
    (Response.value 200 (.arr ((r.list name).map StoredDocument.toJson))).status = 200 := by
  rw [Response.value_of_isTransmissible (isTransmissible_list sound name)]

/-- The conditions can be sent. -/
theorem isTransmissible_conditionsJson : conditionsJson.isTransmissible = true := by
  decide +kernel

/-- The schema can be sent. -/
theorem isTransmissible_exported : Schema.exported.isTransmissible = true := by
  decide +kernel

/-- A reason can be sent exactly if its text can. -/
theorem isTransmissible_detail (v : Json) :
    (Json.obj [("detail", v)]).isTransmissible = v.isTransmissible := by
  have key : ("detail" : Text).isEncodable = true := by decide
  simp only [Json.isTransmissible, Json.allLeaves, Json.allLeavesMembers, key, Bool.true_and,
    Bool.and_true]

/-- A call for an identifier that does not fit fails. -/
theorem fails_of_beyond {c : Call} {id : Int} (concerned : c.document? = some id)
    (beyond : Registry.fits id = false) : fails bound r c = true := by
  cases c with
  | fetch other | audit other | change other x | revalidate other =>
    obtain rfl : other = id := Option.some.inj concerned
    simp [fails, beyond]
  | _ => cases concerned

/-- A call about a document that is not there does not fail, and is meant to tell so. -/
theorem fails_of_unknown {c : Call} {id : Int} (concerned : c.document? = some id)
    (absent : r.fetch id = .ok none) : fails bound r c = false ∧ meantStatus bound r c = 404 := by
  obtain ⟨within, absent⟩ := Registry.fetch_eq_none.mp absent
  cases c with
  | fetch other | audit other | change other x | revalidate other =>
    obtain rfl : other = id := Option.some.inj concerned
    simp [fails, meantStatus, within, absent]
  | _ => cases concerned

/-- A valid document that the registry refuses is one of a version that is there, or the call
fails. -/
theorem status_unstored (sound : r.Sound) {new : NewDocument} {fault : StoreFault}
    (valid : (validate bound (.value (.str new.content))).isValid = true)
    (refused : r.create new = .error fault) :
    (refusal fault).status =
      if fails bound r (.create new) then 500 else meantStatus bound r (.create new) := by
  simp only [fails, meantStatus, valid, if_true, Bool.not_true, Bool.false_eq_true, if_false]
  -- What cannot be kept is refused before its version is looked up.
  by_cases storable : Registry.IsStorable new (r.documents.length + 1)
  · have written := Registry.create_of_isStorable (sound.nextId_eq.symm ▸ storable)
    rw [refused] at written
    split at written
    · next there =>
      cases written
      simp only [storable, there, decide_true, Bool.not_true, Bool.false_eq_true, if_false, if_true]
      rfl
    · cases written
  · obtain ⟨other, unlike, written⟩ := Registry.create_of_not_isStorable (r := r)
      (sound.nextId_eq.symm ▸ storable)
    rw [refused] at written
    cases written
    simp only [storable, decide_false, Bool.not_false, if_true]
    cases fault with
    | duplicate => exact absurd rfl unlike
    | _ => rfl

/-- A change that is refused fails, since no change conflicts. -/
theorem fails_of_unchanged {id : Int} {c : DocumentChange} {d : StoredDocument} {fault : StoreFault}
    (found : r.fetch id = .ok (some d)) (refused : r.change d c = .error fault) :
    fails bound r (.change id c) = true := by
  have there := (Registry.fetch_eq_some.mp found).2
  have impossible : ¬ ∃ result, r.change d c = .ok result := by
    rintro ⟨result, written⟩
    cases refused.symm.trans written
  rw [Registry.exists_change_eq_ok, not_and_or, not_not] at impossible
  simpa [fails, there] using Or.inr impossible

/-- A change that is made does not fail. -/
theorem fails_of_changed {id : Int} {c : DocumentChange} {d d' : StoredDocument}
    (found : r.fetch id = .ok (some d)) (write : Registry.Changed r d c d' after) :
    fails bound r (.change id c) = false := by
  obtain ⟨within, there⟩ := Registry.fetch_eq_some.mp found
  obtain ⟨kept, encodable⟩ :=
    Registry.exists_change_eq_ok.mp ⟨(d', after), Registry.change_eq_ok.mpr write⟩
  simp [fails, within, there, kept, encodable]

/-- Every outcome of a call has the status that is meant, unless the call fails. -/
theorem Outcome.status_eq {now : Time} {c : Call}
    (outcome : Outcome bound r now c response after) (sound : r.Sound)
    (showable : ∀ d ∈ r.documents, (auditResponse (r.auditOf (.integer d.id))).status = 200) :
    response.status = if fails bound r c then 500 else meantStatus bound r c := by
  -- Stored documents can be sent, so besides refusals only what a request brings can make an answer fail.
  cases outcome with
  | validated => rw [status_value_eq]; rfl
  | conditions =>
    rw [Response.value_of_isTransmissible isTransmissible_conditionsJson]
    rfl
  | schema =>
    rw [Response.value_of_isTransmissible isTransmissible_exported]
    rfl
  | listed => exact status_list sound _
  | rejected invalid =>
    rw [status_value_eq, isTransmissible_detail]
    simp [fails, meantStatus, invalid]
  | stored valid write =>
    have storable := write.storable
    rw [sound.nextId_eq] at storable
    rw [status_document 201 write.encodable]
    simp [fails, meantStatus, valid, storable, write.fresh]
  | unstored valid refused => exact status_unstored sound valid refused
  | beyond concerned beyond => rw [fails_of_beyond concerned beyond]; rfl
  | unknown concerned absent =>
    have unknown : fails bound r c = false ∧ meantStatus bound r c = 404 :=
      fails_of_unknown concerned absent
    rw [unknown.1, unknown.2]
    rfl
  | fetched found =>
    obtain ⟨within, there⟩ := Registry.fetch_eq_some.mp found
    rw [status_document 200 (sound.encodable _ (Registry.mem_of_find? there).1)]
    simp [fails, meantStatus, within, there]
  | changed found write =>
    have there := (Registry.fetch_eq_some.mp found).2
    have mem := (Registry.mem_of_find? there).1
    have listed := (write.mem_documents mem).mpr (Or.inl rfl)
    rw [status_document 200 ((sound.changed mem write).encodable _ listed),
      fails_of_changed found write]
    simp [meantStatus, there]
  | unchanged found refused => rw [fails_of_unchanged found refused]; rfl
  | revalidated found =>
    obtain ⟨within, there⟩ := Registry.fetch_eq_some.mp found
    rw [status_value_eq]
    simp [fails, meantStatus, within, there]
  | audited found =>
    obtain ⟨within, there⟩ := Registry.fetch_eq_some.mp found
    rw [showable _ (Registry.mem_of_find? there).1]
    simp [fails, meantStatus, within, there]

/-- After every history a call is answered with the status that is meant, unless it fails; then no
answer is given but that of a failure. -/
theorem status_of_call (history : History) (bound : DepthBound) {request : Request} {c : Call}
    (called : call request = .ok c) :
    (handle bound (registryAfter {} history) request).1.status =
      if fails bound (registryAfter {} history) c then 500
      else meantStatus bound (registryAfter {} history) c := by
  refine (handle_outcome called).status_eq (sound_after history) fun d stored => ?_
  rw [auditOf_eq (audit_registryAfter history),
    auditResponse_of_isShowable (isShowable_of_mem_trail stored)]

/-- A request for a document that is not there does not fail. -/
theorem status_of_unknown_document :
    let request : Request := {
      method := "GET", target := { path := "/rule-sets/1", query := [] }, body := none }
    call request = .ok (.fetch 1) ∧
      (handle (.integer 64) (registryAfter {} []) request).1.status = 404 := by
  intro request
  have called : call request = .ok (.fetch 1) := rfl
  exact ⟨called, (status_of_call [] (.integer 64) called).trans (by decide)⟩

/-- A change of a stored document that clears whether it is active is a form and a call, and is meant
to be confirmed, but fails. -/
theorem clearing_escapes :
    let creation : Request := {
      method := "POST", target := { path := "/rule-sets", query := [] }
      body := some (.json (.obj [("name", .str "a"), ("content", .str "[]")])) }
    let clearing : Request := {
      method := "PATCH", target := { path := "/rule-sets/1", query := [] }
      body := some (.json (.obj [("is_active", .null)])) }
    call clearing = .ok (.change 1 { active := .clear }) ∧
      meantStatus (.integer 64) (registryAfter {} (under (.integer 64) [creation]))
        (.change 1 { active := .clear }) = 200 ∧
      (handle (.integer 64) (registryAfter {} (under (.integer 64) [creation])) clearing).1 =
        .failure := by
  intro creation clearing
  refine ⟨rfl, by decide +kernel, by decide +kernel⟩

end Service

end Rulebook
