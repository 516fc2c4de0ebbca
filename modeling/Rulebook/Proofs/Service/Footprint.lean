import Rulebook.Proofs.Registry.Footprint
import Rulebook.Proofs.Service.Provenance
import Rulebook.Proofs.Service.Atomicity

/-!
# The footprint of a confirmed write

What a confirmed creation or change does to the documents, told from the body of the request. A creation
adds one document with the fields of the body and the time of the clock, and a change gives its target
what the body asks for; the others of the name are inactive afterwards if the written document is to be
active, and nothing else changes. A change therefore acts on the documents of one name alone, and its
answer depends on its target alone (`exists_patch`), so that changes of documents of different names
commute.
-/

set_option autoImplicit false

namespace Rulebook

/-- The documents of a name. -/
def Registry.ofName (r : Registry) (name : Text) : List StoredDocument :=
  r.documents.filter fun d => d.name = name

namespace Service

variable {bound : DepthBound} {r : Registry} {request : Request} {response : Response}

/-! ## Bodies -/

/-- A request for a new document. -/
structure IsPost (request : Request) : Prop where
  method : request.method = "POST"
  route : route? request.target.path = some .collection

/-- A request for a change of the document with an identifier. -/
structure IsPatch (request : Request) (id : Int) : Prop where
  method : request.method = "PATCH"
  route : ∃ text, route? request.target.path = some (.document text) ∧
    Form.readNumeral text = .ok id

/-- A body that makes no call is not answered as a write. -/
theorem status_of_bodyCall {body : Option RequestBody}
    {form : Payload → Except (List FormFault) Call} (h : bodyCall body form = .error response) :
    response.status ≠ 200 ∧ response.status ≠ 201 := by
  have invalid (faults : List FormFault) :
      (Response.invalid faults).status ≠ 200 ∧ (Response.invalid faults).status ≠ 201 := by
    unfold Response.invalid
    split <;> simp [Response.failure]
  unfold bodyCall at h
  split at h
  · next fault _ =>
    cases h
    cases fault with
    | notJson offset => exact invalid _
    | unreadable => simp [bodyFaultResponse, Response.detail]
  · next payload _ =>
    cases made : form payload with
    | ok c => simp [callOf, made] at h
    | error faults =>
      simp only [callOf, made, Except.error.injEq] at h
      rw [← h]
      exact invalid faults

/-- A form is read from an object only. -/
theorem exists_body_of_readForm {α : Type} {form : Members → Except (List FormFault) α}
    {payload : Payload} {a : α} (h : readForm form payload = .ok a) :
    ∃ body, payload = .json (.obj body) ∧ form body = .ok a := by
  unfold readForm at h
  split at h
  · next members holds =>
    refine ⟨members, ?_, h⟩
    unfold formMembers at holds
    split at holds
    · cases holds
      rfl
    · cases holds
    · cases holds
    · cases holds
  · cases h

/-- The call of a request for a creation is what its body makes of it. -/
theorem IsPost.call_eq (post : IsPost request) : call request =
    bodyCall request.body fun p => (readForm Form.newDocument p).map fun new =>
      .create { new with created := request.clock.stored } := by
  rw [call, post.route]
  simp only [routeCall, post.method, if_true]

/-- The call of a request for a change is what its path and its body make of it. -/
theorem call_of_patch {text : Text} (method : request.method = "PATCH")
    (route : route? request.target.path = some (.document text)) :
    call request = bodyCall request.body (changeForm text) := by
  have other : ("PATCH" : Text) ≠ "GET" := by decide
  rw [call, route]
  simp only [routeCall, method, other, if_true, if_false]

/-- A request for a change makes a call only by a body that is one for the identifier in its path. -/
theorem exists_change_of_patch {text : Text} {c : Call} (method : request.method = "PATCH")
    (route : route? request.target.path = some (.document text)) (called : call request = .ok c) :
    ∃ id body change, Form.readNumeral text = .ok id ∧
      readBody request.body = .ok (.json (.obj body)) ∧ Form.documentChange body = .ok change ∧
      c = .change id change := by
  rw [call_of_patch method route] at called
  obtain ⟨payload, read, made⟩ := exists_of_bodyCall called
  obtain ⟨id, change, identified, formed, rfl⟩ := exists_of_changeForm made
  obtain ⟨body, rfl, form⟩ := exists_body_of_readForm formed
  refine ⟨id, body, change, ?_, read, form, rfl⟩
  unfold readId at identified
  split at identified
  · next n numeral =>
    cases identified
    exact numeral
  · cases identified

/-! ## Creations -/

/-- What changes documents of other names only changes none of a name. -/
theorem ofName_map {documents : List StoredDocument} {f : StoredDocument → StoredDocument}
    {name : Text} (names : ∀ x, (f x).name = x.name)
    (others : ∀ x ∈ documents, x.name = name → f x = x) :
    (documents.map f).filter (fun d => decide (d.name = name)) =
      documents.filter fun d => decide (d.name = name) := by
  rw [List.filter_map]
  have same_filter : ((fun d : StoredDocument => decide (d.name = name)) ∘ f) =
      fun d => decide (d.name = name) := by
    funext x
    simp only [Function.comp_apply, names]
  rw [same_filter]
  have kept : ∀ x ∈ documents.filter fun d => decide (d.name = name), f x = id x := by
    intro x listed
    obtain ⟨mem, named⟩ := List.mem_filter.mp listed
    exact others x mem (of_decide_eq_true named)
  rw [List.map_congr_left kept, List.map_id]

/-- A confirmed creation adds the document that its body asks for, with the time of the clock. -/
theorem footprint_of_post (sound : r.Sound) (post : IsPost request)
    (confirmed : (handle bound r request).1.status = 201) :
    ∃ body new, readBody request.body = .ok (.json (.obj body)) ∧ Form.IsNewDocument body new ∧
      new.created = request.clock.stored ∧
      (handle bound r request).2.documents =
        r.documents.map new.givenWay ++ [new.stored (r.documents.length + 1)] := by
  cases called : call request with
  | error response =>
    rw [handle_of_response called] at confirmed
    rw [post.call_eq] at called
    exact absurd confirmed (status_of_bodyCall called).2
  | ok c =>
    have made := called
    rw [post.call_eq] at made
    obtain ⟨payload, read, formed⟩ := exists_of_bodyCall made
    cases form : readForm Form.newDocument payload with
    | error faults => simp [form, Except.map] at formed
    | ok asked =>
      simp only [form, Except.map, Except.ok.injEq] at formed
      subst formed
      obtain ⟨body, rfl, holds⟩ := exists_body_of_readForm form
      have fields := Form.isNewDocument_of_newDocument holds
      refine ⟨body, _, read, fields.at_time request.clock.stored, rfl, ?_⟩
      have effect := handle_effect bound r request
      generalize (handle bound r request).1 = response at effect confirmed
      generalize (handle bound r request).2 = after at effect ⊢
      cases effect with
      | stored called' _ write =>
        cases called.symm.trans called'
        have document := write.document
        rw [sound.nextId_eq] at document
        rw [← document]
        exact write.documents_eq
      | changed called' => cases called.symm.trans called'
      | unchanged _ create => exact absurd confirmed (create _ called)

/-! ## Changes -/

/-- A confirmed change gives its target what its body asks for. -/
theorem footprint_of_patch (sound : r.Sound) {text : Text} (method : request.method = "PATCH")
    (route : route? request.target.path = some (.document text))
    (confirmed : (handle bound r request).1.status = 200) :
    ∃ body c target, target ∈ r.documents ∧ IsPatch request target.id ∧
      readBody request.body = .ok (.json (.obj body)) ∧ Form.IsDocumentChange body c ∧
      c.active ≠ .clear ∧
      (handle bound r request).2 = { r with documents := r.documents.map (c.affected target) } := by
  cases called : call request with
  | error response =>
    rw [handle_of_response called] at confirmed
    rw [call_of_patch method route] at called
    exact absurd confirmed (status_of_bodyCall called).1
  | ok made =>
    obtain ⟨id, body, c, numeral, read, form, rfl⟩ := exists_change_of_patch method route called
    have effect := handle_effect bound r request
    generalize (handle bound r request).1 = response at effect confirmed
    generalize (handle bound r request).2 = after at effect ⊢
    cases effect with
    | stored called' => cases called.symm.trans called'
    | @changed _ _ d d' _ called' found write =>
      cases called.symm.trans called'
      obtain ⟨mem, rfl⟩ := Registry.mem_of_find? found
      have kept := (Registry.exists_change_eq_ok.mp ⟨_, Registry.change_eq_ok.mpr write⟩).1
      exact ⟨body, c, d, mem, ⟨method, text, route, numeral⟩, read,
        Form.isDocumentChange_of_documentChange form, kept, write.registry_eq sound mem⟩
    | unchanged _ _ change => exact absurd confirmed (change id c called)

/-- A request for a change of a document, confirmed or not, is answered by what the document is, and acts
on the documents as some change of it does. -/
theorem exists_patch {d : StoredDocument} (patch : IsPatch request d.id) :
    ∃ (response : Response) (c : DocumentChange), ∀ (bound : DepthBound) (r : Registry), r.Sound →
      d ∈ r.documents →
      handle bound r request =
        (response, { r with documents := r.documents.map (c.affected d) }) := by
  obtain ⟨method, text, route, numeral⟩ := patch
  have nothing (r : Registry) :
      { r with documents := r.documents.map (DocumentChange.affected {} d) } = r := by
    have same : DocumentChange.affected {} d = id := funext (Registry.affected_by_nothing d)
    rw [same, List.map_id]
  cases called : call request with
  | error response =>
    refine ⟨response, {}, ?_⟩
    intro bound r _ _
    rw [handle_of_response called, nothing]
  | ok made =>
    obtain ⟨id, body, c, numeral', -, -, rfl⟩ := exists_change_of_patch method route called
    cases numeral.symm.trans numeral'
    -- Whether the registry takes the change depends on the document and on what is asked for alone.
    by_cases possible : c.active ≠ .clear ∧ (c.notes.over d.notes).all Text.isEncodable = true
    · refine ⟨.value 200 (c.applied d).toJson, c, ?_⟩
      intro bound r sound mem
      obtain ⟨⟨d', after⟩, written⟩ := (Registry.exists_change_eq_ok (r := r)).mpr possible
      have write := Registry.change_eq_ok.mp written
      rw [handle_of_call called, answer, withDocument_of_found (sound.fetch_id mem), answerChange,
        written, write.registry_eq sound mem, write.applied_eq]
    · refine ⟨.failure, {}, ?_⟩
      intro bound r sound mem
      rw [handle_of_call called, answer, withDocument_of_found (sound.fetch_id mem), answerChange,
        nothing]
      cases written : r.change d c with
      | error fault => rfl
      | ok result => exact absurd (Registry.exists_change_eq_ok.mp ⟨result, written⟩) possible

/-- Requests for changes of documents of different names commute: in either order each has the answer
that it has alone, and the registry is the same in the end. -/
theorem patches_commute {bound bound' : DepthBound} {p q : Request} {a b : StoredDocument}
    (sound : r.Sound) (mem_a : a ∈ r.documents) (mem_b : b ∈ r.documents) (other : a.name ≠ b.name)
    (patch_a : IsPatch p a.id) (patch_b : IsPatch q b.id) :
    (handle bound' (handle bound r p).2 q).1 = (handle bound' r q).1 ∧
      (handle bound (handle bound' r q).2 p).1 = (handle bound r p).1 ∧
      (handle bound' (handle bound r p).2 q).2 = (handle bound (handle bound' r q).2 p).2 := by
  obtain ⟨answer_a, c, act_a⟩ := exists_patch patch_a
  obtain ⟨answer_b, e, act_b⟩ := exists_patch patch_b
  have sound_a := (handle_effect bound r p).sound sound
  have sound_b := (handle_effect bound' r q).sound sound
  rw [act_a bound r sound mem_a] at sound_a ⊢
  rw [act_b bound' r sound mem_b] at sound_b ⊢
  -- Neither change touches the other's target, so each acts after the other as it does alone.
  have b_there : b ∈ r.documents.map (c.affected a) := List.mem_map.mpr
    ⟨b, mem_b, Registry.affected_of_other_name other.symm (sound.id_ne mem_b mem_a other.symm)⟩
  have a_there : a ∈ r.documents.map (e.affected b) := List.mem_map.mpr
    ⟨a, mem_a, Registry.affected_of_other_name other (sound.id_ne mem_a mem_b other)⟩
  rw [act_b bound' _ sound_a b_there, act_a bound _ sound_b a_there]
  refine ⟨rfl, rfl, ?_⟩
  simp only [List.map_map, Registry.mk.injEq, and_true]
  apply List.map_congr_left
  intro x listed
  exact (Registry.affected_comm sound mem_a mem_b other listed).symm

/-! ## Footprints -/

/-- In every registry that a history leads to, a confirmed creation adds one document with the fields of
its body and the time of the clock, and of the others it changes nothing but that those of its name are
inactive if it is active. A confirmed change changes in its target what its body has, and of the others
nothing but that those of its name are inactive if the body makes it active. The documents of other names
stay as they are, and changes of documents of different names commute. -/
theorem write_footprint (history : History) :
    let r := registryAfter {} history
    (∀ bound request, IsPost request → (handle bound r request).1.status = 201 →
      ∃ body new, readBody request.body = .ok (.json (.obj body)) ∧ Form.IsNewDocument body new ∧
        new.created = request.clock.stored ∧
        (handle bound r request).2.documents =
          r.documents.map new.givenWay ++ [new.stored (r.documents.length + 1)] ∧
        ∀ name ≠ new.name, (handle bound r request).2.ofName name = r.ofName name) ∧
    (∀ bound (request : Request) text, request.method = "PATCH" →
      route? request.target.path = some (.document text) →
      (handle bound r request).1.status = 200 →
      ∃ body c target, target ∈ r.documents ∧ IsPatch request target.id ∧
        readBody request.body = .ok (.json (.obj body)) ∧ Form.IsDocumentChange body c ∧
        c.active ≠ .clear ∧
        (handle bound r request).2 = { r with documents := r.documents.map (c.affected target) } ∧
        ∀ name ≠ target.name, (handle bound r request).2.ofName name = r.ofName name) ∧
    (∀ bound bound' p q a b, a ∈ r.documents → b ∈ r.documents → a.name ≠ b.name →
      IsPatch p a.id → IsPatch q b.id →
      (handle bound' (handle bound r p).2 q).1 = (handle bound' r q).1 ∧
      (handle bound (handle bound' r q).2 p).1 = (handle bound r p).1 ∧
      (handle bound' (handle bound r p).2 q).2 = (handle bound (handle bound' r q).2 p).2) := by
  intro r
  have sound : r.Sound := sound_after history
  refine ⟨?_, ?_, ?_⟩
  · intro bound request post confirmed
    obtain ⟨body, new, read, form, time, documents⟩ := footprint_of_post sound post confirmed
    refine ⟨body, new, read, form, time, documents, ?_⟩
    intro name other
    -- The new document and those that give way to it are of one name.
    have not_new : (new.stored (r.documents.length + 1)).name ≠ name := other.symm
    rw [Registry.ofName, documents, List.filter_append, List.filter_singleton,
      decide_eq_false not_new, cond_false, List.append_nil]
    apply ofName_map new.name_givenWay
    intro x _ named
    exact new.givenWay_of_other_name (named.trans_ne other)
  · intro bound request text method route confirmed
    obtain ⟨body, c, target, mem, patch, read, form, kept, documents⟩ :=
      footprint_of_patch sound method route confirmed
    refine ⟨body, c, target, mem, patch, read, form, kept, documents, ?_⟩
    intro name other
    rw [documents]
    apply ofName_map (Registry.name_affected c target)
    intro x listed named
    have apart : x.name ≠ target.name := named.trans_ne other
    exact Registry.affected_of_other_name apart (sound.id_ne listed mem apart)
  · intro bound bound' p q a b mem_a mem_b other patch_a patch_b
    exact patches_commute sound mem_a mem_b other patch_a patch_b

/-- Two versions of one name and a document of another: a third version, an old version made active
again, and a change of the other document. -/
theorem footprints_of_two_names :
    let creation (name : Text) (version : Int) : Request := {
      method := "POST", target := { path := "/rule-sets", query := [] }
      body := some (.json (.obj
        [("name", .str name), ("version", .int version), ("content", .str "[]")])) }
    let change (path : Text) (body : Members) : Request := {
      method := "PATCH", target := { path, query := [] }, body := some (.json (.obj body)) }
    let limit : DepthBound := .integer 64
    let history := under limit [creation "a" 1, creation "a" 2, creation "b" 1]
    let again := change "/rule-sets/1" [("is_active", .bool true), ("notes", .null)]
    let aside := change "/rule-sets/3" [("is_active", .bool false)]
    let a : StoredDocument := {
      id := 1, name := "a", version := 1, active := false, content := "[]", notes := none, created := {} }
    let b : StoredDocument := {
      id := 3, name := "b", version := 1, active := true, content := "[]", notes := none, created := {} }
    IsPost (creation "a" 3) ∧
      (handle limit (registryAfter {} history) (creation "a" 3)).1.status = 201 ∧
      (∃ new : NewDocument, ∀ name ≠ new.name,
        (handle limit (registryAfter {} history) (creation "a" 3)).2.ofName name =
          (registryAfter {} history).ofName name) ∧
      (handle limit (registryAfter {} history) again).1.status = 200 ∧
      (∃ (c : DocumentChange) (target : StoredDocument), IsPatch again target.id ∧
        (handle limit (registryAfter {} history) again).2 = { registryAfter {} history with
          documents := (registryAfter {} history).documents.map (c.affected target) }) ∧
      a ∈ (registryAfter {} history).documents ∧ b ∈ (registryAfter {} history).documents ∧
      a.name ≠ b.name ∧ IsPatch again a.id ∧ IsPatch aside b.id ∧
      (handle limit (handle limit (registryAfter {} history) again).2 aside).2 =
        (handle limit (handle limit (registryAfter {} history) aside).2 again).2 := by
  intro creation change limit history again aside a b
  have post : IsPost (creation "a" 3) := ⟨rfl, by decide⟩
  have stored : (handle limit (registryAfter {} history) (creation "a" 3)).1.status = 201 := by
    decide +kernel
  have route : route? again.target.path = some (.document "1") := by decide
  have changed : (handle limit (registryAfter {} history) again).1.status = 200 := by decide +kernel
  have mem_a : a ∈ (registryAfter {} history).documents := by decide +kernel
  have mem_b : b ∈ (registryAfter {} history).documents := by decide +kernel
  have other : a.name ≠ b.name := by decide
  have patch_a : IsPatch again a.id := ⟨rfl, "1", by decide, by decide +kernel⟩
  have patch_b : IsPatch aside b.id := ⟨rfl, "3", by decide, by decide +kernel⟩
  obtain ⟨created, patched, commute⟩ := write_footprint history
  obtain ⟨-, new, -, -, -, -, others⟩ := created limit (creation "a" 3) post stored
  obtain ⟨-, c, target, -, patch, -, -, -, registry, -⟩ := patched limit again "1" rfl route changed
  obtain ⟨-, -, same⟩ := commute limit limit again aside a b mem_a mem_b other patch_a patch_b
  exact ⟨post, stored, ⟨new, others⟩, changed, ⟨c, target, patch, registry⟩, mem_a, mem_b, other,
    patch_a, patch_b, same⟩

end Service

end Rulebook
