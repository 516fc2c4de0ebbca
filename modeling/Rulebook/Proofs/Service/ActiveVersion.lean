import Rulebook.Proofs.Service.History

/-!
# The active version of a name

Which document of a name is active is told by the requests and their answers alone: `activeVersion`
reads them one by one and never looks into the registry. A confirmed creation of an active document
and a confirmed change that makes a document active set it, a confirmed change that makes the active
document inactive clears it, and nothing else counts. `activeOf_registryAfter` says that after every
history the active documents of the name are that one or none.

The proof carries along that the registry and the reader agree, through each of the three effects that
a request may have.
-/

set_option autoImplicit false

namespace Rulebook

/-- The active documents of a name. -/
def Registry.activeOf (r : Registry) (name : Text) : List StoredDocument :=
  r.documents.filter fun d => d.name = name && d.active

/-- The value that an answer shows under a key. -/
def Response.shown? (response : Response) (key : Text) : Option Json :=
  match response.body with
  | .json (.obj members) => Members.get? members key
  | _ => none

/-- The identifier that an answer shows. -/
def Response.shownId? (response : Response) : Option Int :=
  match response.shown? "id" with
  | some (.int id) => some id
  | _ => none

namespace Service

/-- The active version of a name after an exchange, given the one before. -/
def activeAfter (name : Text) (current : Option Int) (e : Exchange) : Option Int :=
  match call e.request with
  | .ok (.create new) =>
    if e.response.status = 201 ∧ new.active = true ∧ new.name = name then e.response.shownId?
    else current
  | .ok (.change id c) =>
    if e.response.status = 200 ∧ e.response.shown? "name" = some (.str name) then
      match c.active with
      | .set true => some id
      | .set false => if current = some id then none else current
      | _ => current
    else current
  | _ => current

/-- The active version of a name after exchanges that begin with an empty registry. -/
def activeVersion (name : Text) (es : List Exchange) : Option Int :=
  es.foldl (activeAfter name) none

variable {bound : DepthBound} {r after : Registry} {request : Request} {response : Response}
  {name : Text} {current : Option Int}

/-- An exchange that changes no document changes no active version. -/
theorem activeAfter_of_unchanged
    (create : ∀ new, call request = .ok (.create new) → response.status ≠ 201)
    (change : ∀ id c, call request = .ok (.change id c) → response.status ≠ 200) :
    activeAfter name current { request, response } = current := by
  unfold activeAfter
  split
  · next new called => exact if_neg fun confirmed => create new called confirmed.1
  · next id c called => exact if_neg fun confirmed => change id c called confirmed.1
  · rfl

/-- A confirmed creation makes the new document the active version if it is active and of the
name. -/
theorem activeAfter_of_stored {new : NewDocument} {d : StoredDocument}
    (called : call request = .ok (.create new)) (encodable : d.IsEncodable) :
    activeAfter name current { request, response := .value 201 d.toJson } =
      if new.active = true ∧ new.name = name then some (d.id : Int) else current := by
  have id : (Response.mk 201 (.json d.toJson)).shownId? = some (d.id : Int) := rfl
  rw [Response.value_document encodable]
  simp only [activeAfter, called, true_and, id]

/-- A confirmed change of a document of the name makes it the active version or takes that from
it. -/
theorem activeAfter_of_changed {id : Int} {c : DocumentChange} {d : StoredDocument}
    (called : call request = .ok (.change id c)) (encodable : d.IsEncodable) :
    activeAfter name current { request, response := .value 200 d.toJson } =
      if d.name = name then
        match c.active with
        | .set true => some id
        | .set false => if current = some id then none else current
        | _ => current
      else current := by
  have shown : (Response.mk 200 (.json d.toJson)).shown? "name" = some (.str d.name) := rfl
  rw [Response.value_document encodable]
  simp only [activeAfter, called, true_and, shown, Option.some.injEq, Json.str.injEq]

/-- The registry and the reader of exchanges agree on the active version of a name. -/
def Agrees (r : Registry) (name : Text) (current : Option Int) : Prop :=
  ∀ id, r.IsActive name id ↔ current = some id

/-- What the registry and the reader agree on depends on the documents alone. -/
theorem Agrees.of_documents (agrees : Agrees r name current)
    (same : after.documents = r.documents) : Agrees after name current := by
  intro id
  rw [← agrees id, Registry.IsActive, Registry.IsActive, same]

/-- A confirmed creation leaves them in agreement. -/
theorem Agrees.stored {new : NewDocument} {d : StoredDocument} (agrees : Agrees r name current)
    (called : call request = .ok (.create new)) (write : Registry.Created r new d after) :
    Agrees after name (activeAfter name current { request, response := .value 201 d.toJson }) := by
  intro id
  rw [Registry.isActive_of_created write, activeAfter_of_stored called write.encodable]
  split
  · rw [Option.some.injEq, eq_comm]
  · exact agrees id

/-- A confirmed change leaves them in agreement. -/
theorem Agrees.changed {c : DocumentChange} {d d' : StoredDocument} (agrees : Agrees r name current)
    (sound : r.Sound) (called : call request = .ok (.change d.id c)) (mem : d ∈ r.documents)
    (write : Registry.Changed r d c d' after) :
    Agrees after name (activeAfter name current { request, response := .value 200 d'.toJson }) := by
  intro id
  have encodable : d'.IsEncodable := by
    refine (sound.changed mem write).encodable d' ?_
    exact (write.mem_documents mem).mpr (Or.inl rfl)
  have before : current = some (d.id : Int) ↔ d.name = name ∧ d.active = true :=
    (agrees d.id).symm.trans (sound.isActive_id mem)
  rw [Registry.isActive_of_changed sound mem write, activeAfter_of_changed called encodable,
    write.name_eq, agrees id]
  -- A change touches its own document and, if that becomes active, the others of the name; by
  -- `before` the reader knows whether its own document was the active one.
  have active := write.active
  by_cases named : d.name = name
  · rw [if_pos named]
    cases change : c.active with
    | keep =>
      rw [change] at active
      split
      · next same =>
        rw [same, before, Option.some.inj active]
      · simp
    | set value =>
      rw [change] at active
      rw [← Option.some.inj active]
      cases value with
      | true => simp [named, eq_comm]
      | false =>
        by_cases was : current = some (d.id : Int)
        · simp [was, eq_comm]
        · by_cases same : id = d.id
          · simp [same, was]
          · simp [same, was]
    | clear =>
      rw [change] at active
      cases active
  · rw [if_neg named]
    split
    · next same =>
      rw [same, before]
      simp [named]
    · simp [named]

/-- Whatever a request does, registry and reader agree afterwards if they agreed before. -/
theorem Agrees.step (agrees : Agrees r name current) (sound : r.Sound)
    (effect : Effect bound r request response after) :
    Agrees after name (activeAfter name current { request, response }) := by
  cases effect with
  | stored called _ write => exact (agrees.stored called write).of_documents rfl
  | changed called found write =>
    obtain ⟨mem, rfl⟩ := Registry.mem_of_find? found
    exact agrees.changed sound called mem write
  | unchanged documents create change =>
    rw [activeAfter_of_unchanged create change]
    exact agrees.of_documents documents

/-- Registry and reader agree after every history if they agreed before it. -/
theorem Agrees.registryAfter (agrees : Agrees r name current) (sound : r.Sound) (history : History) :
    Agrees (registryAfter r history) name
      ((exchanges r history).foldl (activeAfter name) current) := by
  induction history generalizing r current with
  | nil => exact agrees
  | cons exchange rest ih =>
    obtain ⟨bound, request⟩ := exchange
    have effect := handle_effect bound r request
    exact ih (agrees.step sound effect) (effect.sound sound)

/-- The active documents of a name are listed by their identifiers as registry and reader agree. -/
theorem Agrees.activeOf (agrees : Agrees r name current) (sound : r.Sound) :
    (r.activeOf name).map (fun d => (d.id : Int)) = current.toList := by
  have mem {id : Int} : id ∈ (r.activeOf name).map (fun d => (d.id : Int)) ↔ current = some id := by
    rw [← agrees id, List.mem_map, Registry.IsActive]
    simp only [Registry.activeOf, List.mem_filter, Bool.and_eq_true, decide_eq_true_eq, and_assoc]
  have nodup : ((r.activeOf name).map fun d => (d.id : Int)).Nodup := by
    have part : (r.activeOf name).Sublist r.documents := List.filter_sublist
    have ids := (part.map StoredDocument.id).nodup sound.distinct
    rw [← Function.comp_def, ← List.map_map]
    exact ids.map fun a b same => Int.ofNat.inj same
  cases current with
  | none =>
    rw [Option.toList_none, List.eq_nil_iff_forall_not_mem]
    intro id listed
    cases mem.mp listed
  | some id =>
    rw [Option.toList_some, ← List.perm_singleton]
    refine (List.perm_ext_iff_of_nodup nodup (List.nodup_singleton id)).mpr fun other => ?_
    rw [mem, Option.some.injEq, List.mem_singleton, eq_comm]

/-- After every history that begins with an empty registry at most one document of a name is active,
and it is the one that the requests with their answers tell. -/
theorem activeOf_registryAfter (history : History) (name : Text) :
    ((Service.registryAfter {} history).activeOf name).map (fun d => (d.id : Int)) =
      (activeVersion name (exchanges {} history)).toList := by
  have initial : Agrees {} name none := by
    intro id
    constructor
    · rintro ⟨d, mem, -⟩
      cases mem
    · intro impossible
      cases impossible
  have agrees := initial.registryAfter Registry.sound_empty history
  exact agrees.activeOf (sound_registryAfter Registry.sound_empty history)

end Service

end Rulebook
