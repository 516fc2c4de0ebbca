import Rulebook.Service.Draft
import Rulebook.Proofs.Json.Members
import Rulebook.Proofs.Service.Calls
import Rulebook.Proofs.Text.Ascii
import Rulebook.Proofs.Text.Utf8
import Mathlib

/-!
# Requests that are sent

A request reaches the service in bytes, so it has been written by its sender and read again. What that
tells of it is `Request.IsSent`: its method is in upper case, no surrogate stands in its path or query, a
value in its body can be sent as JSON and a text there in UTF-8. The sending of a draft gives it
(`isSent_of_send`), and gives a host that may be one, since nothing else is sent (`address_of_send`).

A listing by name rests on it. A name is looked up among those of the documents as it stands, with no answer
for one that the database could not be asked for, and no request asks for such a name
(`isEncodable_of_list`).
-/

set_option autoImplicit false

namespace Rulebook

/-- What a request has been through that was sent. -/
structure Request.IsSent (r : Request) : Prop where
  method : ∀ c ∈ r.method, ¬ (0x61 ≤ c.val ∧ c.val ≤ 0x7A)
  path : r.target.path.isEncodable = true
  query : ∀ entry ∈ r.target.query, entry.1.isEncodable = true ∧ entry.2.isEncodable = true
  json : ∀ v, r.body = some (.json v) → v.isTransmissible = true
  raw : ∀ text contentType, r.body = some (.raw text contentType) →
    text.isEncodable = true ∧ contentType.IsAscii

namespace Target

/-- What an address leads to is read from bytes. -/
theorem isEncodable_ofAddress (a : Address) :
    (ofAddress a).path.isEncodable = true ∧
      ∀ entry ∈ (ofAddress a).query, entry.1.isEncodable = true ∧ entry.2.isEncodable = true := by
  refine ⟨Utf8.isEncodable_decodeLossy _, fun entry mem => ?_⟩
  obtain ⟨part, -, rfl⟩ := List.mem_map.mp mem
  exact ⟨Utf8.isEncodable_decodeLossy _, Utf8.isEncodable_decodeLossy _⟩

end Target

namespace Address

/-- An address is read only if its host may be one; one that is taken from the root of the service has
none. -/
theorem isHost_of_ofText? {t : Text} {a : Address} (h : ofText? t = some a) :
    Host.isHost a.host = true := by
  unfold ofText? at h
  dsimp only at h
  split at h
  · cases h
  · next fine =>
    have valid : (ofText t).isValid = true := by
      simp only [not_or, Bool.not_eq_true', Bool.not_eq_false] at fine
      exact fine.2.2
    rw [isValid, Bool.and_eq_true, Bool.and_eq_true] at valid
    -- Resolving the dots of the path leaves the host as it is.
    have kept : (if (ofText t).scheme ≠ [] ∨ (ofText t).hasAuthority = true then
        { ofText t with path := resolvePath (ofText t).path } else ofText t).host = (ofText t).host := by
      split <;> rfl
    generalize (if (ofText t).scheme ≠ [] ∨ (ofText t).hasAuthority = true then
      { ofText t with path := resolvePath (ofText t).path } else ofText t) = resolved at h kept
    split at h
    · cases h
      dsimp only
      rw [kept]
      exact valid.1.1
    · split at h
      · cases h
        rfl
      · cases h

end Address

namespace Draft

variable {d : Draft} {r : Request}

/-- No letter of ASCII is left in lower case, also not by the letters that are two in upper case. -/
theorem not_lower_of_mem_upperLetters {c letter : CodePoint} (mem : letter ∈ upperLetters c) :
    ¬ (0x61 ≤ letter.val ∧ letter.val ≤ 0x7A) := by
  have fixed : ∀ written ∈ (["SS", "I", "S", "FF", "FI", "FL", "FFI", "FFL", "ST"] : List Text),
      written.all (fun x => x.val < 0x61) = true := by decide
  have above {written : Text} (listed : written ∈
        (["SS", "I", "S", "FF", "FI", "FL", "FFI", "FFL", "ST"] : List Text)) (there : letter ∈ written) :
      ¬ (0x61 ≤ letter.val ∧ letter.val ≤ 0x7A) := by
    have bound := of_decide_eq_true (List.all_eq_true.mp (fixed written listed) letter there)
    omega
  unfold upperLetters at mem
  repeat' split at mem
  iterate 9 exact above (by decide) mem
  rw [List.mem_singleton.mp mem, CodePoint.toUpperAscii]
  split
  · next lower =>
    have value : (CodePoint.ofNat (c.val - 0x20)).val = c.val - 0x20 := Nat.mod_eq_of_lt (by omega)
    omega
  · assumption

/-- A method is in upper case throughout. -/
theorem not_lower_of_mem_methodOf {t : Text} {c : CodePoint} (mem : c ∈ methodOf t) :
    ¬ (0x61 ≤ c.val ∧ c.val ≤ 0x7A) := by
  obtain ⟨written, -, there⟩ := List.mem_flatMap.mp mem
  exact not_lower_of_mem_upperLetters there

/-- A draft that is sent has a target, can be written, and leads to the service. -/
theorem send_eq_ok_iff : d.send = .ok r ↔
    ∃ a target, d.target? = some (a, target) ∧ d.isEncodable = true ∧ bodyFault? d.body = none ∧
      routeFault? a = none ∧ r = { method := methodOf d.method, target, body := d.body } := by
  unfold send
  cases reached : d.target? with
  | none => simp
  | some found =>
    obtain ⟨a, target⟩ := found
    cases encodable : d.isEncodable with
    | false => simp
    | true =>
      cases body : bodyFault? d.body with
      | some fault => simp
      | none =>
        cases route : routeFault? a with
        | some fault => simp [route]
        | none =>
          simp only [if_true, route, Except.ok.injEq]
          constructor
          · rintro rfl
            exact ⟨a, target, rfl, trivial, trivial, route, rfl⟩
          · rintro ⟨_, _, same, -, -, -, rfl⟩
            cases same
            rfl

/-- The names and values of a target are those of the address or those that the draft puts in their
place. -/
theorem isEncodable_of_target? {a : Address} {target : Target} (h : d.target? = some (a, target))
    (encodable : d.isEncodable = true) :
    target.path.isEncodable = true ∧
      ∀ entry ∈ target.query, entry.1.isEncodable = true ∧ entry.2.isEncodable = true := by
  rw [isEncodable, Bool.and_eq_true] at encodable
  unfold target? at h
  split at h
  · cases h
  · cases h
    exact Target.isEncodable_ofAddress _
  · next query _ given =>
    obtain ⟨replaced, -, same⟩ := Option.map_eq_some_iff.mp h
    cases same
    refine ⟨(Target.isEncodable_ofAddress a).1, fun entry mem => ?_⟩
    have written := encodable.2
    rw [given, Option.getD_some, List.all_eq_true] at written
    exact Bool.and_eq_true_iff.mp (written entry mem)

/-- Sending leaves nothing in a request that bytes cannot hold. -/
theorem isSent_of_send (sent : d.send = .ok r) : r.IsSent := by
  obtain ⟨a, target, reached, encodable, body, -, rfl⟩ := send_eq_ok_iff.mp sent
  obtain ⟨path, query⟩ := isEncodable_of_target? reached encodable
  refine ⟨fun c mem => not_lower_of_mem_methodOf mem, path, query, ?_, ?_⟩
  · rintro v given
    dsimp only at given
    rw [given, bodyFault?] at body
    split at body
    · cases body
    · split at body
      · assumption
      · cases body
  · rintro text contentType given
    dsimp only at given
    rw [given, bodyFault?] at body
    split at body
    · next fine =>
      refine ⟨fine.1, fun c mem => ?_⟩
      exact of_decide_eq_true (List.all_eq_true.mp fine.2 c mem)
    · cases body

/-! ## Where a request goes -/

/-- The address of a target is that of the draft, but for the query. -/
theorem exists_address_of_target? {a : Address} {target : Target} (h : d.target? = some (a, target)) :
    ∃ stated, Address.ofText? d.address = some stated ∧ a = { stated with query := a.query } := by
  unfold target? at h
  split at h
  · cases h
  · next stated found _ =>
    cases h
    exact ⟨a, found, rfl⟩
  · next stated query found _ =>
    obtain ⟨replaced, short, same⟩ := Option.map_eq_some_iff.mp h
    cases same
    rw [Address.withQuery?, Option.ite_none_right_eq_some] at short
    cases short.2
    exact ⟨stated, found, rfl⟩

/-- A request is sent over a connection that ends with its answer, and to a host that may be one. -/
theorem address_of_send (sent : d.send = .ok r) :
    ∃ a, Address.ofText? d.address = some a ∧ (a.scheme = "http" ∨ a.scheme = "https") ∧
      Host.isHost a.host = true := by
  obtain ⟨a, target, reached, -, -, route, -⟩ := send_eq_ok_iff.mp sent
  obtain ⟨stated, found, same⟩ := exists_address_of_target? reached
  refine ⟨stated, found, ?_, Address.isHost_of_ofText? found⟩
  rw [show stated.scheme = a.scheme by rw [same]]
  unfold routeFault? at route
  split at route
  · cases route
  · next known =>
    split at route
    · cases route
    · next lasting =>
      simp only [Bool.not_eq_true', Bool.not_eq_false, List.contains_eq_mem, List.mem_cons,
        List.not_mem_nil, or_false, decide_eq_true_eq] at known lasting
      tauto

end Draft

/-! ## Listings -/

namespace Service

variable {request : Request}

/-- A listing is called for with the name that the query gives last. -/
theorem value?_of_list {name : Option Text} (called : call request = .ok (.list name)) :
    name = request.target.value? "name" := by
  cases callsFor called with
  | list => rfl

/-- No listing is called for by a name that could not be looked up. -/
theorem isEncodable_of_list {name : Text} (sent : request.IsSent)
    (called : call request = .ok (.list (some name))) : name.isEncodable = true := by
  have found := value?_of_list called
  have mem := mem_of_lookup found.symm
  exact (sent.query _ (List.mem_reverse.mp mem)).2

end Service

end Rulebook
