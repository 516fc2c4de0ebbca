import Rulebook.Proofs.Service.Outcome

/-!
# Histories of requests

What a request may do to the documents of the registry, in three cases, and what holds of every
registry that a history of requests leads to. `handle_effect` reads the cases off the outcomes of a
call; everything about the documents of a history goes by them.

A bound on depth goes with each request, since the bound in force may change between requests.
-/

set_option autoImplicit false

namespace Rulebook

namespace Service

/-! ## One request -/

/-- What a request may do: store a new document, change a document, or leave all documents as they
are, and then neither a creation nor a change is confirmed. -/
inductive Effect (bound : DepthBound) (r : Registry) (request : Request) :
    Response → Registry → Prop where
  | stored {new : NewDocument} {d : StoredDocument} {after : Registry}
      (called : call request = .ok (.create new))
      (valid : (validate bound (.value (.str new.content))).isValid = true)
      (write : Registry.Created r new d after) :
      Effect bound r request (.value 201 d.toJson)
        (after.record (some (.integer d.id)) storedEvent
          (.obj (versionMembers d.name d.version)) request.clock.recorded).2
  | changed {id : Int} {c : DocumentChange} {d d' : StoredDocument} {after : Registry}
      (called : call request = .ok (.change id c))
      (found : r.find? id = some d)
      (write : Registry.Changed r d c d' after) :
      Effect bound r request (.value 200 d'.toJson) after
  | unchanged {response : Response} {after : Registry}
      (documents : after.documents = r.documents)
      (create : ∀ new, call request = .ok (.create new) → response.status ≠ 201)
      (change : ∀ id c, call request = .ok (.change id c) → response.status ≠ 200) :
      Effect bound r request response after

/-- An answer that holds a value has the status it is meant to have or that of a failure. -/
theorem status_value (status : Nat) (v : Json) :
    (Response.value status v).status = status ∨ (Response.value status v).status = 500 := by
  rw [Response.value]
  split
  · exact Or.inl rfl
  · exact Or.inr rfl

/-- A refusal tells a conflict or a failure. -/
theorem status_refusal (fault : StoreFault) :
    (refusal fault).status = 409 ∨ (refusal fault).status = 500 := by
  cases fault with
  | duplicate => exact Or.inl rfl
  | _ => exact Or.inr rfl

/-- A confirmed creation or change has the effect of one, and any other outcome of a call leaves the
documents as they are. -/
theorem Outcome.effect {bound : DepthBound} {r after : Registry} {request : Request} {c : Call}
    {response : Response} (called : call request = .ok c)
    (outcome : Outcome bound r request.clock.recorded c response after) :
    Effect bound r request response after := by
  have other {response : Response} {after : Registry} (documents : after.documents = r.documents)
      (create : ∀ new, c = .create new → response.status ≠ 201)
      (change : ∀ id x, c = .change id x → response.status ≠ 200) :
      Effect bound r request response after := by
    refine .unchanged documents (fun new same => create new ?_) (fun id x same => change id x ?_)
    · exact Except.ok.inj (called.symm.trans same)
    · exact Except.ok.inj (called.symm.trans same)
  cases outcome with
  | stored valid write => exact .stored called valid write
  | changed found write => exact .changed called (Registry.fetch_eq_some.mp found).2 write
  | validated => exact other rfl nofun nofun
  | conditions => exact other rfl nofun nofun
  | schema => exact other rfl nofun nofun
  | listed => exact other rfl nofun nofun
  | fetched found => exact other rfl nofun nofun
  | revalidated found => exact other rfl nofun nofun
  | audited found => exact other rfl nofun nofun
  | beyond concerned beyond =>
    have failure : Response.failure.status ≠ 201 ∧ Response.failure.status ≠ 200 := by decide
    exact other rfl (fun _ _ => failure.1) fun _ _ _ => failure.2
  | unknown concerned absent =>
    have unknown : unknownDocument.status ≠ 201 ∧ unknownDocument.status ≠ 200 := by decide
    exact other rfl (fun _ _ => unknown.1) fun _ _ _ => unknown.2
  | unchanged found refused =>
    have failure : Response.failure.status ≠ 200 := by decide
    exact other rfl nofun fun _ _ _ => failure
  | rejected invalid =>
    refine other rfl (fun _ _ => ?_) nofun
    rcases status_value 422 (.obj [("detail", _)]) with eq | eq <;> rw [eq] <;> decide
  | @unstored new fault valid refused =>
    refine other rfl (fun _ _ => ?_) nofun
    rcases status_refusal fault with eq | eq <;> rw [eq] <;> decide

/-- Every request has one of the three effects. -/
theorem handle_effect (bound : DepthBound) (r : Registry) (request : Request) :
    Effect bound r request (handle bound r request).1 (handle bound r request).2 := by
  cases called : call request with
  | error response =>
    rw [handle_of_response called]
    refine .unchanged rfl ?_ ?_
    · intro new same
      cases called.symm.trans same
    · intro id c same
      cases called.symm.trans same
  | ok c => exact (handle_outcome called).effect called

/-- What a request does to the registry keeps it sound. -/
theorem Effect.sound {bound : DepthBound} {r after : Registry} {request : Request}
    {response : Response} (effect : Effect bound r request response after) (h : r.Sound) :
    after.Sound := by
  cases effect with
  | stored _ _ write => exact (h.created write).of_documents rfl
  | changed _ found write => exact h.changed (Registry.mem_of_find? found).1 write
  | unchanged documents => exact h.of_documents documents

/-! ## Histories -/

/-- Requests in the order in which they are handled, each with the bound in force. -/
abbrev History := List (DepthBound × Request)

/-- A request with its answer. -/
structure Exchange where
  request : Request
  response : Response

/-- The registry that a history leads to. -/
def registryAfter (r : Registry) : History → Registry
  | [] => r
  | (bound, request) :: rest => registryAfter (handle bound r request).2 rest

/-- A history goes on where the one before it ends. -/
theorem registryAfter_append (r : Registry) (history more : History) :
    registryAfter r (history ++ more) = registryAfter (registryAfter r history) more := by
  induction history generalizing r with
  | nil => rfl
  | cons exchange rest ih => exact ih _

/-- The requests of a history with their answers. -/
def exchanges (r : Registry) : History → List Exchange
  | [] => []
  | (bound, request) :: rest =>
    { request, response := (handle bound r request).1 } :: exchanges (handle bound r request).2 rest

/-- Every registry that a history leads to from a sound one is sound. -/
theorem sound_registryAfter {r : Registry} (h : r.Sound) (history : History) :
    (registryAfter r history).Sound := by
  induction history generalizing r with
  | nil => exact h
  | cons exchange rest ih =>
    obtain ⟨bound, request⟩ := exchange
    exact ih ((handle_effect bound r request).sound h)

/-- Every history leads to a sound registry. -/
theorem sound_after (history : History) : (registryAfter {} history).Sound :=
  sound_registryAfter Registry.sound_empty history

end Service

end Rulebook
