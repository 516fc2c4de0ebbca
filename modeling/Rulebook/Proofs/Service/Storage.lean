import Rulebook.Proofs.Registry.Listing
import Rulebook.Proofs.Service.Atomicity
import Rulebook.Proofs.Service.Status

/-!
# Storage and listings

What the answers of a history tell about the documents that are there after it. Confirmed creations show
the identifiers from one on without a gap, since nothing else takes an identifier, and these are the
identifiers under which documents are found from then on. Keys stay distinct and names stay non-empty,
so a listing shows every document once and in strict order.

Both halves are invariants of one request, carried along a history: `Effect.map_id` for identifiers and
`Effect.keyed` for keys. That no name is empty comes from the form of a creation.
-/

set_option autoImplicit false

namespace Rulebook

namespace Form

/-- No empty text is read as a name. -/
theorem ne_nil_of_readName {v : Json} {t : Text} (h : readName v = .ok t) : t ≠ [] := by
  unfold readName at h
  split at h
  · cases h
  · next read text =>
    split at h
    · cases h
    · split at h
      · cases h
      · next present =>
        intro empty
        rw [← Except.ok.inj h] at empty
        exact present (List.isEmpty_iff.mpr empty)

/-- What is read of a required field is read of its value. -/
theorem exists_of_required {α : Type} {read : Json → Except FormCause α} {name : Text}
    {body : Members} {a : α} (h : required read name body = .ok a) : ∃ v, read v = .ok a := by
  unfold required at h
  split at h
  · cases h
  · next v found =>
    split at h
    · next b given =>
      rw [Except.ok.inj h] at given
      exact ⟨v, given⟩
    · cases h

/-- No new document has an empty name. -/
theorem ne_nil_of_newDocument {body : Members} {new : NewDocument}
    (h : newDocument body = .ok new) : new.name ≠ [] := by
  unfold newDocument at h
  dsimp only at h
  split at h
  · next name version active notes content named _ _ _ _ =>
    obtain ⟨v, read⟩ := exists_of_required named
    rw [← Except.ok.inj h]
    exact ne_nil_of_readName read
  · cases h

end Form

namespace Registry

variable {r : Registry} {id : Int}

/-- The identifiers of a sound registry are the numbers from one to that of its documents. -/
theorem Sound.exists_id (h : r.Sound) :
    (∃ d ∈ r.documents, (d.id : Int) = id) ↔ 1 ≤ id ∧ id ≤ r.documents.length := by
  constructor
  · rintro ⟨d, mem, rfl⟩
    have bounds := h.id_bounds mem
    omega
  · rintro ⟨first, last⟩
    have listed : id.toNat ∈ r.documents.map StoredDocument.id := by
      rw [h.ids, List.mem_range'_1]
      omega
    obtain ⟨d, mem, same⟩ := List.mem_map.mp listed
    refine ⟨d, mem, ?_⟩
    rw [same]
    omega

end Registry

namespace Service

variable {bound : DepthBound} {r after : Registry} {request : Request} {response : Response}

/-! ## Names -/

/-- A creation is called for by the form of a new document only, and takes its time from the clock. -/
theorem exists_form_of_create {new : NewDocument} (called : call request = .ok (.create new)) :
    ∃ payload form, readForm Form.newDocument payload = .ok form ∧
      new = { form with created := request.clock.stored } := by
  cases callsFor called with
  | create _ _ _ form => exact ⟨_, _, form, rfl⟩

/-- No creation is called for with an empty name. -/
theorem ne_nil_of_create {new : NewDocument} (called : call request = .ok (.create new)) :
    new.name ≠ [] := by
  obtain ⟨payload, form, read, rfl⟩ := exists_form_of_create called
  unfold readForm at read
  split at read
  · have named : form.name ≠ [] := Form.ne_nil_of_newDocument read
    exact named
  · cases read

/-! ## One request -/

/-- The identifier that a confirmed creation shows. -/
def createdId? (e : Exchange) : Option Int :=
  match call e.request with
  | .ok (.create _) => if e.response.status = 201 then e.response.shownId? else none
  | _ => none

/-- A request adds the identifier that it shows as created, and no other. -/
theorem Effect.map_id (effect : Effect bound r request response after) :
    after.documents.map (fun d => (d.id : Int)) =
      r.documents.map (fun d => (d.id : Int)) ++ (createdId? { request, response }).toList := by
  cases effect with
  | @stored new d after called valid write =>
    have shown : (Response.mk 201 (.json d.toJson)).shownId? = some (d.id : Int) := rfl
    have id : createdId? { request, response := .value 201 d.toJson } = some (d.id : Int) := by
      rw [Response.value_document write.encodable]
      simp only [createdId?, called, if_true, shown]
    rw [id]
    exact write.map_documents fun _ _ => rfl
  | @changed id c d d' after called found write =>
    have none : createdId? { request, response := .value 200 d'.toJson } = Option.none := by
      simp only [createdId?, called]
    rw [none, Option.toList_none, List.append_nil]
    apply write.map_documents fun _ _ => rfl
    intro x _ same
    rw [write.id_eq, same]
  | unchanged documents create =>
    have none : createdId? { request, response } = Option.none := by
      unfold createdId?
      split
      · next new called => exact if_neg (create new called)
      · rfl
    rw [none, documents, Option.toList_none, List.append_nil]

/-- What a request does to the registry keeps the keys distinct and the names non-empty. -/
theorem Effect.keyed (effect : Effect bound r request response after) (sound : r.Sound)
    (keyed : r.Keyed) : after.Keyed := by
  cases effect with
  | stored called _ write =>
    have created := keyed.created write (ne_nil_of_create called)
    exact created.of_documents rfl
  | changed _ found write => exact keyed.changed sound (Registry.mem_of_find? found).1 write
  | unchanged documents => exact keyed.of_documents documents

/-! ## Histories -/

/-- A history adds the identifiers that its confirmed creations show, in their order. -/
theorem map_id_registryAfter (r : Registry) (history : History) :
    (registryAfter r history).documents.map (fun d => (d.id : Int)) =
      r.documents.map (fun d => (d.id : Int)) ++ (exchanges r history).filterMap createdId? := by
  induction history generalizing r with
  | nil => exact (List.append_nil _).symm
  | cons exchange rest ih =>
    obtain ⟨bound, request⟩ := exchange
    have effect := handle_effect bound r request
    rw [registryAfter, exchanges]
    generalize (handle bound r request).1 = response at effect ⊢
    generalize (handle bound r request).2 = after at effect ⊢
    rw [ih, effect.map_id, List.append_assoc]
    cases shown : createdId? { request, response } <;> simp [shown]

/-- Every history keeps the keys distinct. -/
theorem keyed_registryAfter (sound : r.Sound) (keyed : r.Keyed) (history : History) :
    (registryAfter r history).Keyed := by
  induction history generalizing r with
  | nil => exact keyed
  | cons exchange rest ih =>
    obtain ⟨bound, request⟩ := exchange
    have effect := handle_effect bound r request
    exact ih (effect.sound sound) (effect.keyed sound keyed)

/-! ## Answers -/

/-- A document is answered under its identifier. -/
theorem handle_fetch (sound : r.Sound) {d : StoredDocument} (mem : d ∈ r.documents)
    (called : call request = .ok (.fetch d.id)) :
    (handle bound r request).1 = { status := 200, body := .json d.toJson } := by
  have answered : answer bound r request.clock.recorded (.fetch d.id) =
      withDocument r d.id fun d => (.value 200 d.toJson, r) := rfl
  rw [handle_of_call called, answered, withDocument_of_found (sound.fetch_id mem)]
  exact Response.value_document (sound.encodable d mem)

/-- A document is found under the identifiers from one to the number of the documents. -/
theorem status_fetch_iff (sound : r.Sound) {id : Int} (called : call request = .ok (.fetch id)) :
    (handle bound r request).1.status = 200 ↔ 1 ≤ id ∧ id ≤ r.documents.length := by
  rw [← sound.exists_id]
  constructor
  · intro confirmed
    have outcome : Outcome bound r request.clock.recorded (.fetch id) (handle bound r request).1
        (handle bound r request).2 := handle_outcome called
    generalize (handle bound r request).1 = response at outcome confirmed
    generalize (handle bound r request).2 = after at outcome
    cases outcome with
    | fetched found => exact ⟨_, Registry.mem_of_find? (Registry.fetch_eq_some.mp found).2⟩
    | unknown concerned absent => cases confirmed
    | beyond concerned beyond => cases confirmed
  · rintro ⟨d, mem, rfl⟩
    rw [handle_fetch sound mem called]

/-- A listing is answered with the documents it lists. -/
theorem handle_list (sound : r.Sound) {name : Option Text} (called : call request = .ok (.list name)) :
    (handle bound r request).1 =
      { status := 200, body := .json (.arr ((r.list name).map StoredDocument.toJson)) } := by
  rw [handle_of_call called]
  exact Response.value_of_isTransmissible (isTransmissible_list sound name)

/-- After every history that begins with an empty registry the identifiers are those that its confirmed
creations show, and they count up from one. No two documents share name and version, no name is empty,
and whatever follows, every document stays but for being active and for its notes. A document is found
under exactly the identifiers that are in use. A listing shows each document once and in strict order,
and the listing of one name shows the part of it with that name. -/
theorem documents_kept_and_listed (history : History) :
    let r := registryAfter {} history
    let n := r.documents.length
    r.documents.map StoredDocument.id = List.range' 1 n ∧
    (exchanges {} history).filterMap createdId? = (List.range' 1 n).map Int.ofNat ∧
    (r.documents.map StoredDocument.key).Nodup ∧
    (∀ d ∈ r.documents, d.name ≠ []) ∧
    (∀ later, ∀ d ∈ r.documents, ∃ e ∈ (registryAfter r later).documents, e.IsRevisionOf d) ∧
    (∀ bound request id, call request = .ok (.fetch id) →
      ((handle bound r request).1.status = 200 ↔ 1 ≤ id ∧ id ≤ n) ∧
      ∀ d ∈ r.documents, d.id = id →
        (handle bound r request).1 = { status := 200, body := .json d.toJson }) ∧
    ∃ listing : List StoredDocument,
      listing.Perm r.documents ∧ listing.Pairwise StoredDocument.Precedes ∧
      (∀ bound request, call request = .ok (.list none) →
        (handle bound r request).1 =
          { status := 200, body := .json (.arr (listing.map StoredDocument.toJson)) }) ∧
      ∀ bound request name, call request = .ok (.list (some name)) →
        (handle bound r request).1 = {
          status := 200
          body := .json (.arr
            ((listing.filter fun d => d.name = name).map StoredDocument.toJson)) } := by
  intro r n
  have sound : r.Sound := sound_after history
  have keyed : r.Keyed := keyed_registryAfter Registry.sound_empty Registry.keyed_empty history
  refine ⟨sound.ids, ?_, keyed.distinct, keyed.named, ?_, ?_, ?_⟩
  · have shown : r.documents.map (fun d => (d.id : Int)) =
        (exchanges {} history).filterMap createdId? := map_id_registryAfter {} history
    have ids : (r.documents.map StoredDocument.id).map Int.ofNat =
        (List.range' 1 n).map Int.ofNat := congrArg _ sound.ids
    rw [List.map_map] at ids
    exact shown.symm.trans ids
  · intro later d mem
    exact kept_registryAfter sound mem later
  · intro bound request id called
    refine ⟨status_fetch_iff sound called, ?_⟩
    rintro d mem rfl
    exact handle_fetch sound mem called
  · refine ⟨r.list none, r.list_perm, keyed.pairwise_list none, ?_, ?_⟩
    · intro bound request called
      exact handle_list sound called
    · intro bound request name called
      -- Keys are distinct, so leaving documents out of a listing leaves the only order of the others.
      rw [← keyed.list_some name]
      exact handle_list sound called

/-- Three documents of two names, and a creation that conflicts in between. -/
theorem three_documents_listed :
    let creation (name : Text) (version : Int) : Request := {
      method := "POST", target := { path := "/rule-sets", query := [] }
      body := some (.json (.obj [("name", .str name), ("version", .int version),
        ("content", .str "[]")])) }
    let history : History := [(.integer 64, creation "b" 1), (.integer 64, creation "a" 1),
      (.integer 64, creation "b" 1), (.integer 64, creation "a" 2)]
    let fetch : Request := {
      method := "GET", target := { path := "/rule-sets/3", query := [] }, body := none }
    let list : Request := {
      method := "GET", target := { path := "/rule-sets", query := [("name", "a")] }, body := none }
    (exchanges {} history).filterMap createdId? = [1, 2, 3] ∧
      (handle (.integer 64) (registryAfter {} history) fetch).1.status = 200 ∧
      ∃ listing : List StoredDocument, listing.Perm (registryAfter {} history).documents ∧
        listing.Pairwise StoredDocument.Precedes ∧
        (handle (.integer 64) (registryAfter {} history) list).1 = {
          status := 200
          body := .json (.arr
            ((listing.filter fun d => d.name = ("a" : Text)).map StoredDocument.toJson)) } := by
  intro creation history fetch list
  have fetches : call fetch = .ok (.fetch 3) := rfl
  have lists : call list = .ok (.list (some "a")) := rfl
  have length : (registryAfter {} history).documents.length = 3 := by decide +kernel
  obtain ⟨-, shown, -, -, -, found, listing, perm, ordered, -, named⟩ :=
    documents_kept_and_listed history
  rw [length] at shown found
  refine ⟨shown, ?_, listing, perm, ordered, named (.integer 64) list _ lists⟩
  exact (found (.integer 64) fetch 3 fetches).1.mpr (by decide)

end Service

end Rulebook
