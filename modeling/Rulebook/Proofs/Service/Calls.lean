import Rulebook.Service.Request
import Mathlib

/-!
# What requests call for

A request calls for something by its path, its method and, where it has one, its body. `CallsFor` tells of
each call which path and which method make it and which form it is read from; `callsFor` says that no other
request makes it. What a theorem needs to know of one call is then one case of it.
-/

set_option autoImplicit false

namespace Rulebook.Service

/-- A request calls for something. -/
inductive CallsFor (r : Request) : Call → Prop where
  | validate {payload : Payload} {content : Json} (route : route? r.target.path = some .validate)
      (method : r.method = "POST") (body : readBody r.body = .ok payload)
      (form : readForm Form.validation payload = .ok content) : CallsFor r (.validate content)
  | conditions (route : route? r.target.path = some .conditions) (method : r.method = "GET") :
      CallsFor r .conditions
  | schema (route : route? r.target.path = some .schema) (method : r.method = "GET") :
      CallsFor r .schema
  | create {payload : Payload} {new : NewDocument} (route : route? r.target.path = some .collection)
      (method : r.method = "POST") (body : readBody r.body = .ok payload)
      (form : readForm Form.newDocument payload = .ok new) :
      CallsFor r (.create { new with created := r.clock.stored })
  | list (route : route? r.target.path = some .collection) (method : r.method = "GET") :
      CallsFor r (.list (r.target.value? "name"))
  | fetch {text : Text} {id : Int} (route : route? r.target.path = some (.document text))
      (method : r.method = "GET") (numeral : readId text = .ok id) : CallsFor r (.fetch id)
  | change {payload : Payload} {text : Text} {id : Int} {change : DocumentChange}
      (route : route? r.target.path = some (.document text)) (method : r.method = "PATCH")
      (body : readBody r.body = .ok payload) (numeral : readId text = .ok id)
      (form : readForm Form.documentChange payload = .ok change) : CallsFor r (.change id change)
  | revalidate {text : Text} {id : Int} (route : route? r.target.path = some (.validation text))
      (method : r.method = "GET") (numeral : readId text = .ok id) : CallsFor r (.revalidate id)
  | audit {text : Text} {id : Int} (route : route? r.target.path = some (.audit text))
      (method : r.method = "GET") (numeral : readId text = .ok id) : CallsFor r (.audit id)

variable {request : Request}

/-- The call that a form makes is one of what the form holds. -/
theorem exists_of_callOf {α : Type} {make : α → Call} {form : Except (List FormFault) α} {c : Call}
    (h : callOf make form = .ok c) : ∃ a, form = .ok a ∧ c = make a := by
  cases form with
  | error faults => cases h
  | ok a => exact ⟨a, rfl, (Except.ok.inj h).symm⟩

/-- A body makes a call only if the form that is read from it does. -/
theorem exists_of_bodyCall {body : Option RequestBody}
    {form : Payload → Except (List FormFault) Call} {c : Call} (h : bodyCall body form = .ok c) :
    ∃ payload, readBody body = .ok payload ∧ form payload = .ok c := by
  unfold bodyCall at h
  split at h
  · cases h
  · next payload read =>
    obtain ⟨made, holds, rfl⟩ := exists_of_callOf h
    exact ⟨payload, read, holds⟩

/-- A body makes a call of one form only if that form is read from it. -/
theorem exists_of_form {α : Type} {body : Option RequestBody} {make : α → Call}
    {form : Payload → Except (List FormFault) α} {c : Call}
    (h : bodyCall body (fun p => (form p).map make) = .ok c) :
    ∃ payload a, readBody body = .ok payload ∧ form payload = .ok a ∧ c = make a := by
  obtain ⟨payload, read, made⟩ := exists_of_bodyCall h
  cases holds : form payload with
  | error faults =>
    rw [holds] at made
    cases made
  | ok a =>
    rw [holds] at made
    exact ⟨payload, a, read, holds, (Except.ok.inj made).symm⟩

/-- A change is read from its path and its body together. -/
theorem exists_of_changeForm {text : Text} {payload : Payload} {c : Call}
    (h : changeForm text payload = .ok c) :
    ∃ id change, readId text = .ok id ∧ readForm Form.documentChange payload = .ok change ∧
      c = .change id change := by
  unfold changeForm at h
  split at h
  · next id change numeral form => exact ⟨id, change, numeral, form, (Except.ok.inj h).symm⟩
  · cases h
  · cases h
  · cases h

/-- Where a request is answered at once unless something holds of it, its call shows that it holds. -/
theorem of_ite_eq_ok {p : Prop} [Decidable p] {made : Except Response Call} {response : Response} {c : Call}
    (h : (if p then made else .error response) = .ok c) : p ∧ made = .ok c := by
  by_cases holds : p
  · exact ⟨holds, by rwa [if_pos holds] at h⟩
  · rw [if_neg holds] at h
    cases h

/-- A call is made only by a request that calls for it. -/
theorem callsFor {c : Call} (called : call request = .ok c) : CallsFor request c := by
  unfold call at called
  split at called
  -- A path is open to one method or to two, and each of them makes one call.
  · next route reached =>
    cases route with
    | validate =>
      obtain ⟨method, made⟩ := of_ite_eq_ok called
      obtain ⟨payload, content, body, form, rfl⟩ := exists_of_form made
      exact .validate reached method body form
    | conditions =>
      obtain ⟨method, made⟩ := of_ite_eq_ok called
      cases made
      exact .conditions reached method
    | schema =>
      obtain ⟨method, made⟩ := of_ite_eq_ok called
      cases made
      exact .schema reached method
    | collection =>
      rw [routeCall] at called
      by_cases post : request.method = "POST"
      · rw [if_pos post] at called
        obtain ⟨payload, new, body, form, rfl⟩ := exists_of_form called
        exact .create reached post body form
      · rw [if_neg post] at called
        obtain ⟨method, made⟩ := of_ite_eq_ok called
        cases made
        exact .list reached method
    | document text =>
      rw [routeCall] at called
      by_cases get : request.method = "GET"
      · rw [if_pos get] at called
        obtain ⟨id, numeral, rfl⟩ := exists_of_callOf called
        exact .fetch reached get numeral
      · rw [if_neg get] at called
        obtain ⟨method, made⟩ := of_ite_eq_ok called
        obtain ⟨payload, body, formed⟩ := exists_of_bodyCall made
        obtain ⟨id, change, numeral, form, rfl⟩ := exists_of_changeForm formed
        exact .change reached method body numeral form
    | validation text =>
      obtain ⟨method, made⟩ := of_ite_eq_ok called
      obtain ⟨id, numeral, rfl⟩ := exists_of_callOf made
      exact .revalidate reached method numeral
    | audit text =>
      obtain ⟨method, made⟩ := of_ite_eq_ok called
      obtain ⟨id, numeral, rfl⟩ := exists_of_callOf made
      exact .audit reached method numeral
    | page => cases called
  · cases called

end Rulebook.Service
