import Rulebook.Proofs.Document.Verdict
import Rulebook.Proofs.Registry.Revision
import Rulebook.Proofs.Service.History

/-!
# Where stored documents come from

Every stored document goes back to one confirmed creation of the history, and only whether it is
active and its notes may have changed since (`exists_creation`). A creation is confirmed only if its
content is valid under the bound in force, and a document that is valid under a bound is valid under
every wider one, so stored documents stay valid as long as the bound is not narrowed.

The argument is one step of a history, in both directions: a request keeps every document up to a
revision, and what is there afterwards is a revision of something or has been created by it.
-/

set_option autoImplicit false

namespace Rulebook.Service

variable {bound : DepthBound} {r : Registry} {request : Request} {x old : StoredDocument}

/-! ## One request -/

/-- What it means that a request creates a document: its content is valid and the answer confirms
it. -/
structure Creates (bound : DepthBound) (r : Registry) (request : Request) (new : NewDocument)
    (d : StoredDocument) : Prop where
  called : call request = .ok (.create new)
  valid : validate bound (.value (.str new.content)) = .valid
  document : d = new.stored (r.documents.length + 1)
  confirmed : (handle bound r request).1 = { status := 201, body := .json d.toJson }
  listed : d ∈ (handle bound r request).2.documents

namespace Creates

variable {new : NewDocument} {d : StoredDocument}

/-- A document that a request creates has the next identifier. -/
theorem id_eq (h : Creates bound r request new d) : d.id = r.documents.length + 1 := by
  rw [h.document, NewDocument.stored]

/-- A document that a request creates has the name in its form. -/
theorem name_eq (h : Creates bound r request new d) : d.name = new.name := by
  rw [h.document, NewDocument.stored]

/-- A document that a request creates has the version in its form. -/
theorem version_eq (h : Creates bound r request new d) : d.version = new.version := by
  rw [h.document, NewDocument.stored]

/-- A document that a request creates has the content in its form. -/
theorem content_eq (h : Creates bound r request new d) : d.content = new.content := by
  rw [h.document, NewDocument.stored]

/-- The answer to a creation, told by a revision of what is created. -/
theorem answer_eq (h : Creates bound r request new d) (revision : x.IsRevisionOf d) :
    (handle bound r request).1 = { status := 201, body := .json (new.stored x.id).toJson } := by
  rw [h.confirmed, revision.id_eq, h.document]
  rfl

end Creates

/-- Every document is still there after a request, but for being active and for its notes. -/
theorem kept_handle (bound : DepthBound) (request : Request) (sound : r.Sound)
    (mem : old ∈ r.documents) :
    ∃ x ∈ (handle bound r request).2.documents, x.IsRevisionOf old := by
  have effect := handle_effect bound r request
  generalize (handle bound r request).1 = response at effect
  generalize (handle bound r request).2 = after at effect ⊢
  cases effect with
  | stored called valid write => exact write.kept mem
  | changed called found write => exact write.kept sound (Registry.mem_of_find? found).1 mem
  | unchanged documents =>
    rw [documents]
    exact ⟨old, mem, old.isRevisionOf_refl⟩

/-- What is there after a request was there before, but for being active and for its notes, or is
created by the request. -/
theorem origin_handle (sound : r.Sound) (mem : x ∈ (handle bound r request).2.documents) :
    (∃ old ∈ r.documents, x.IsRevisionOf old) ∨ ∃ new, Creates bound r request new x := by
  have effect := handle_effect bound r request
  generalize answered : (handle bound r request).1 = response at effect
  generalize left : (handle bound r request).2 = after at effect mem
  cases effect with
  | @stored new d after called valid write =>
    rcases write.origin mem with rfl | prior
    · refine Or.inr ⟨new, called, Verdict.isValid_iff.mp valid, ?_, ?_, ?_⟩
      · rw [write.document, sound.nextId_eq]
      · rw [answered, Response.value_document write.encodable]
      · rw [left]
        exact mem
    · exact Or.inl prior
  | changed called found write =>
    exact Or.inl (write.origin (Registry.mem_of_find? found).1 mem)
  | unchanged documents =>
    rw [documents] at mem
    exact Or.inl ⟨x, mem, x.isRevisionOf_refl⟩

/-! ## Histories -/

/-- Every document is still there after a history, but for being active and for its notes. -/
theorem kept_registryAfter (sound : r.Sound) (mem : old ∈ r.documents) (history : History) :
    ∃ x ∈ (registryAfter r history).documents, x.IsRevisionOf old := by
  induction history generalizing r old with
  | nil => exact ⟨old, mem, old.isRevisionOf_refl⟩
  | cons exchange rest ih =>
    obtain ⟨bound, request⟩ := exchange
    obtain ⟨next, listed, revision⟩ := kept_handle bound request sound mem
    have after := (handle_effect bound r request).sound sound
    obtain ⟨x, there, later⟩ := ih after listed
    exact ⟨x, there, later.trans revision⟩

/-- What is there after a history was there before, but for being active and for its notes, or goes
back to a document that one of its requests created. -/
theorem origin_registryAfter (sound : r.Sound) {history : History}
    (mem : x ∈ (registryAfter r history).documents) :
    (∃ old ∈ r.documents, x.IsRevisionOf old) ∨
      ∃ before bound request since new d, history = before ++ (bound, request) :: since ∧
        Creates bound (registryAfter r before) request new d ∧ x.IsRevisionOf d := by
  induction history generalizing r with
  | nil => exact Or.inl ⟨x, mem, x.isRevisionOf_refl⟩
  | cons exchange rest ih =>
    obtain ⟨bound, request⟩ := exchange
    have after := (handle_effect bound r request).sound sound
    rcases ih after mem with ⟨next, listed, later⟩ | ⟨before, b, q, since, new, d, rfl, created, later⟩
    · rcases origin_handle sound listed with ⟨old, prior, revision⟩ | ⟨new, created⟩
      · exact Or.inl ⟨old, prior, later.trans revision⟩
      · exact Or.inr ⟨[], bound, request, rest, new, next, rfl, created, later⟩
    · exact Or.inr ⟨(bound, request) :: before, b, q, since, new, d, rfl, created, later⟩

/-- A document that a history stores goes back to one that one of its requests created. -/
theorem exists_creation {history : History} (mem : x ∈ (registryAfter {} history).documents) :
    ∃ before bound request since new d, history = before ++ (bound, request) :: since ∧
      Creates bound (registryAfter {} before) request new d ∧ x.IsRevisionOf d := by
  rcases origin_registryAfter Registry.sound_empty mem with ⟨old, impossible, -⟩ | origin
  · cases impossible
  · exact origin

/-! ## One bound -/

/-- The history of requests that are all handled under one bound. -/
def under (bound : DepthBound) (requests : List Request) : History :=
  requests.map fun request => (bound, request)

/-- Where a history under one bound splits, so do its requests. -/
theorem exists_of_under_eq {requests : List Request} {before since : History} {b : DepthBound}
    (split : under bound requests = before ++ (b, request) :: since) :
    ∃ first last, requests = first ++ request :: last ∧ before = under bound first ∧ b = bound ∧
      since = under bound last := by
  obtain ⟨first, rest, rfl, hfirst, hrest⟩ := List.map_eq_append_iff.mp split
  obtain ⟨q, last, rfl, same, hlast⟩ := List.map_eq_cons_iff.mp hrest
  cases same
  exact ⟨first, last, rfl, hfirst.symm, rfl, hlast.symm⟩

/-- A document that is stored under one bound goes back to one of the requests. -/
theorem exists_creation_under {requests : List Request}
    (mem : x ∈ (registryAfter {} (under bound requests)).documents) :
    ∃ before creation since new d, requests = before ++ creation :: since ∧
      Creates bound (registryAfter {} (under bound before)) creation new d ∧ x.IsRevisionOf d := by
  obtain ⟨before, b, creation, since, new, d, split, created, revision⟩ := exists_creation mem
  obtain ⟨first, last, rfl, rfl, rfl, rfl⟩ := exists_of_under_eq split
  exact ⟨first, creation, last, new, d, rfl, created, revision⟩

/-- Requests under a bound go on where the ones before them end. -/
theorem under_append (bound : DepthBound) (requests more : List Request) :
    under bound (requests ++ more) = under bound requests ++ under bound more :=
  List.map_append

/-- A document that a request creates is found under its identifier from then on, revised or not. -/
theorem Creates.found_after {new : NewDocument} {d : StoredDocument} {before : List Request}
    {creation : Request}
    (created : Creates bound (registryAfter {} (under bound before)) creation new d)
    (later : List Request) :
    ∃ e, (registryAfter {} (under bound (before ++ creation :: later))).find? d.id = some e ∧
      e.IsRevisionOf d := by
  have sound := sound_after (under bound (before ++ creation :: later))
  rw [under_append] at sound ⊢
  rw [registryAfter_append] at sound ⊢
  have created_sound : (handle bound (registryAfter {} (under bound before)) creation).2.Sound :=
    (handle_effect bound _ creation).sound (sound_after _)
  obtain ⟨e, listed, revision⟩ := kept_registryAfter created_sound created.listed (under bound later)
  refine ⟨e, ?_, revision⟩
  rw [← revision.id_eq]
  exact sound.find?_id listed

/-! ## Validity -/

/-- A valid document that is found is answered to be valid whenever it is validated again. -/
theorem answer_revalidate {now : Time} {id : Int} {d : StoredDocument} (found : r.fetch id = .ok (some d))
    (valid : validate bound (.value (.str d.content)) = .valid) :
    (answer bound r now (.revalidate id)).1 =
      { status := 200, body := .json (.obj [("valid", .bool true)]) } := by
  have transmissible : Verdict.valid.toJson.isTransmissible = true := by decide
  rw [answer, withDocument_of_found found, answerValidation_eq, valid]
  exact Response.value_of_isTransmissible transmissible

/-- Every stored document goes back to a creation whose answer shows it. Its name, its version and its
content have been those of that creation ever since, it is answered to be valid whenever it is
validated again, and its content is valid under every bound from the one in force on. -/
theorem stored_documents_stay_valid (limit : Int) (requests : List Request) (d : StoredDocument)
    (stored : d ∈ (registryAfter {} (under (.integer limit) requests)).documents) :
    let reached (requests : List Request) := registryAfter {} (under (.integer limit) requests)
    (∃ before creation since new,
      requests = before ++ creation :: since ∧
      call creation = .ok (.create new) ∧
      (handle (.integer limit) (reached before) creation).1 =
        { status := 201, body := .json (new.stored d.id).toJson } ∧
      d.name = new.name ∧ d.version = new.version ∧ d.content = new.content ∧
      ∀ later, later <+: since →
        ∃ e, (reached (before ++ creation :: later)).find? d.id = some e ∧
          e.name = d.name ∧ e.version = d.version ∧ e.content = d.content) ∧
    (∀ request, call request = .ok (.revalidate d.id) →
      (handle (.integer limit) (reached requests) request).1 =
        { status := 200, body := .json (.obj [("valid", .bool true)]) }) ∧
    (∀ wider : Int, limit ≤ wider →
      (validate (.integer wider) (.value (.str d.content))).toJson =
        .obj [("valid", .bool true)]) := by
  intro reached
  obtain ⟨before, creation, since, new, first, split, created, revision⟩ :=
    exists_creation_under stored
  have same : d.content = new.content := revision.content_eq.trans created.content_eq
  have valid : validate (.integer limit) (.value (.str d.content)) = .valid := by
    rw [same]
    exact created.valid
  refine ⟨⟨before, creation, since, new, split, created.called, created.answer_eq revision,
    revision.name_eq.trans created.name_eq, revision.version_eq.trans created.version_eq, same, ?_⟩,
    ?_, ?_⟩
  · intro later _
    obtain ⟨e, found, unchanged⟩ := created.found_after later
    rw [revision.id_eq, revision.name_eq, revision.version_eq, revision.content_eq]
    exact ⟨e, found, unchanged.name_eq, unchanged.version_eq, unchanged.content_eq⟩
  · intro request called
    have sound : (reached requests).Sound := sound_after _
    rw [handle_of_call called]
    exact answer_revalidate (sound.fetch_id stored) valid
  · intro wider le
    rw [validate_mono (DepthBound.atMost_integer le) valid]
    rfl

/-- The document of one creation, of a text that holds no rule sets. -/
theorem created_document_stays_valid :
    let creation : Request := {
      method := "POST", target := { path := "/rule-sets", query := [] }
      body := some (.json (.obj [("name", .str "a"), ("content", .str "[]")])) }
    let revalidation : Request := {
      method := "GET", target := { path := "/rule-sets/1/validation", query := [] }, body := none }
    let d : StoredDocument := {
      id := 1, name := "a", version := 1, active := true, content := "[]", notes := none
      created := {} }
    d ∈ (registryAfter {} (under (.integer 64) [creation])).documents ∧
      (handle (.integer 64) (registryAfter {} (under (.integer 64) [creation])) revalidation).1 =
        { status := 200, body := .json (.obj [("valid", .bool true)]) } ∧
      (validate (.integer 65) (.value (.str d.content))).toJson = .obj [("valid", .bool true)] := by
  intro creation revalidation d
  have stored : d ∈ (registryAfter {} (under (.integer 64) [creation])).documents := by
    decide +kernel
  have called : call revalidation = .ok (.revalidate d.id) := rfl
  have lasting := stored_documents_stay_valid 64 [creation] d stored
  exact ⟨stored, lasting.2.1 revalidation called, lasting.2.2 65 (by decide)⟩

end Rulebook.Service
