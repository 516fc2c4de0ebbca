import Rulebook.Proofs.Document.Verdict
import Rulebook.Proofs.Service.History

/-!
# What a validation tells about a creation

A text that is validated first and then handed in as the content of a new document is judged twice, by
two calls that show the verdict each in its own way. Both go by the same verdict, so the first answer
tells the second but for one thing: whether the name and the version are there already, which counts
only for a valid text.

The validation between them is recorded and changes no document, and the answer to a creation depends
on the documents alone (`response_answerCreate_congr`).
-/

set_option autoImplicit false

namespace Rulebook

namespace Registry

/-- A key is taken exactly if a document has it. -/
theorem has_eq_true {documents : List StoredDocument} {name : Text} {version : Int} :
    has documents name version = true ↔
      ∃ d ∈ documents, d.name = name ∧ d.version = version := by
  simp [has]

/-- A creation conflicts only with a document that is there. -/
theorem has_of_duplicate {r : Registry} {new : NewDocument} (h : r.create new = .error .duplicate) :
    has r.documents new.name new.version = true := by
  by_cases storable : IsStorable new (nextId (r.documents.map StoredDocument.id))
  · rw [create_of_isStorable storable] at h
    split at h
    · assumption
    · cases h
  · obtain ⟨fault, other, refused⟩ := create_of_not_isStorable storable
    rw [refused] at h
    cases h
    exact absurd rfl other

/-- What a creation gives depends on the documents alone, but for the audit log. -/
theorem create_congr {r after : Registry} (same : after.documents = r.documents)
    (new : NewDocument) :
    after.create new = (r.create new).map fun created =>
      (created.1, { after with documents := created.2.documents }) := by
  rw [create_eq_map, create_eq_map, same]
  cases insert new (prepared new.active new.name none r.documents) with
  | error fault => rfl
  | ok added => rfl

end Registry

namespace Response

/-- An answer that is no failure holds the value that it is meant to hold. -/
theorem value_of_ne_failure {status : Nat} {v : Json} (h : value status v ≠ failure) :
    value status v = { status, body := .json v } := by
  unfold value at h ⊢
  split
  · rfl
  · next unsendable =>
    rw [if_neg unsendable] at h
    exact absurd rfl h

end Response

namespace Service

variable {bound : DepthBound} {r after : Registry} {now : Time} {new : NewDocument}

/-- The answer to the validation of a text that is a valid document. -/
def confirmation : Response := { status := 200, body := .json (.obj [("valid", .bool true)]) }

/-- A validation that is answered shows the verdict. -/
theorem answer_validate {content : Json} (h : (answer bound r now (.validate content)).1 ≠ .failure) :
    (answer bound r now (.validate content)).1 =
      { status := 200, body := .json (validate bound (.value content)).toJson } := by
  rw [answer, answerValidation_eq] at h ⊢
  exact Response.value_of_ne_failure h

/-- The answer with a verdict is the confirmation exactly if the verdict is valid. -/
theorem eq_confirmation_iff {verdict : Verdict} :
    ({ status := 200, body := .json verdict.toJson } : Response) = confirmation ↔
      verdict.isValid = true := by
  rw [Verdict.isValid_iff, ← Verdict.isAccepted_iff, confirmation, Verdict.IsAccepted]
  simp

/-- A creation of a valid text that is answered conflicts if the version is there, and is confirmed
otherwise. -/
theorem status_answerCreate_of_valid (answered : (answerCreate bound r now new).1 ≠ .failure)
    (valid : (validate bound (.value (.str new.content))).isValid = true) :
    (answerCreate bound r now new).1.status =
      if Registry.has r.documents new.name new.version then 409 else 201 := by
  unfold answerCreate at answered ⊢
  simp only [valid, if_true] at answered ⊢
  cases written : r.create new with
  | ok created =>
    simp only [written] at answered ⊢
    have fresh := (Registry.create_eq_ok.mp written).fresh
    rw [Response.value_of_ne_failure answered, fresh]
    rfl
  | error fault =>
    cases fault with
    | duplicate =>
      rw [Registry.has_of_duplicate written]
      rfl
    | _ =>
      rw [written] at answered
      exact absurd rfl answered

/-- A creation of any other text that is answered shows the verdict. -/
theorem answerCreate_of_invalid (answered : (answerCreate bound r now new).1 ≠ .failure)
    (invalid : ¬ (validate bound (.value (.str new.content))).isValid = true) :
    (answerCreate bound r now new).1 = {
      status := 422
      body := .json (.obj [("detail", (validate bound (.value (.str new.content))).toJson)]) } := by
  unfold answerCreate at answered ⊢
  simp only [if_neg invalid] at answered ⊢
  exact Response.value_of_ne_failure answered

/-- What a creation answers depends on the documents alone. -/
theorem response_answerCreate_congr (same : after.documents = r.documents) :
    (answerCreate bound after now new).1 = (answerCreate bound r now new).1 := by
  unfold answerCreate
  rw [Registry.create_congr same]
  dsimp only
  split
  · cases r.create new with
    | ok created => rfl
    | error fault =>
      cases fault with
      | duplicate => rfl
      | _ => rfl
  · rfl

/-- A validation of a text tells what becomes of a creation with the text as its content, if both are
answered: the creation is confirmed or conflicts if and only if the text is said to be valid, it
conflicts if and only if moreover the version of the name is there, and otherwise it is refused with
what the validation said. The validation changes no document, and the creation is answered as it would
have been without it. -/
theorem validation_predicts_creation (history : History) (bound : DepthBound)
    {validation creation : Request} {new : NewDocument}
    (validates : call validation = .ok (.validate (.str new.content)))
    (creates : call creation = .ok (.create new)) :
    let r := registryAfter {} history
    let told := (handle bound r validation).1
    let between := (handle bound r validation).2
    let response := (handle bound between creation).1
    between.documents = r.documents ∧ response = (handle bound r creation).1 ∧
    (told ≠ .failure → response ≠ .failure →
      (response.status = 201 ∨ response.status = 409 ↔ told = confirmation) ∧
      (response.status = 409 ↔ told = confirmation ∧
        ∃ d ∈ r.documents, d.name = new.name ∧ d.version = new.version) ∧
      (¬ (response.status = 201 ∨ response.status = 409) →
        response.status = 422 ∧ ∃ verdict, told.body = .json verdict ∧
          response.body = .json (.obj [("detail", verdict)]))) := by
  intro r told between response
  have kept : between.documents = r.documents := by
    simp only [between, handle_of_call validates]
    rfl
  have told_eq : told = (answer bound r validation.clock.recorded (.validate (.str new.content))).1 := by
    simp only [told, handle_of_call validates]
  have response_eq : response = (answerCreate bound r creation.clock.recorded new).1 := by
    simp only [response, handle_of_call creates]
    exact response_answerCreate_congr kept
  refine ⟨kept, ?_, ?_⟩
  · rw [response_eq, handle_of_call creates]
    rfl
  · intro told_answered answered
    rw [told_eq] at told_answered ⊢
    rw [response_eq] at answered ⊢
    rw [answer_validate told_answered, eq_confirmation_iff, ← Registry.has_eq_true]
    -- The verdict decides between a rejection and the other two, and the key decides between these.
    by_cases valid : (validate bound (.value (.str new.content))).isValid = true
    · rw [status_answerCreate_of_valid answered valid]
      cases Registry.has r.documents new.name new.version with
      | true => simp [valid]
      | false => simp [valid]
    · rw [answerCreate_of_invalid answered valid]
      simp [valid]

/-- The text of no rule sets is valid, but the version is there from the creation before. -/
theorem validation_predicts_conflict :
    let validation : Request := {
      method := "POST", target := { path := "/validate", query := [] }
      body := some (.json (.obj [("content", .str "[]")])) }
    let creation : Request := {
      method := "POST", target := { path := "/rule-sets", query := [] }
      body := some (.json (.obj [("name", .str "a"), ("content", .str "[]")])) }
    let history : History := [(.integer 64, creation)]
    (handle (.integer 64) (registryAfter {} history) validation).1 = confirmation ∧
      (∃ d ∈ (registryAfter {} history).documents, d.name = "a" ∧ d.version = 1) ∧
      (handle (.integer 64) (handle (.integer 64) (registryAfter {} history) validation).2
        creation).1.status = 409 := by
  intro validation creation history
  have validates : call validation = .ok (.validate (.str "[]")) := rfl
  have creates : call creation = .ok (.create { name := "a", content := "[]" }) := rfl
  have told : (handle (.integer 64) (registryAfter {} history) validation).1 = confirmation := by
    decide +kernel
  have there : ∃ d ∈ (registryAfter {} history).documents, d.name = "a" ∧ d.version = 1 := by
    decide +kernel
  have told_answered : (handle (.integer 64) (registryAfter {} history) validation).1 ≠ .failure := by
    decide +kernel
  have answered : (handle (.integer 64)
      (handle (.integer 64) (registryAfter {} history) validation).2 creation).1 ≠ .failure := by
    decide +kernel
  have predicted := validation_predicts_creation history (.integer 64) validates creates
  obtain ⟨-, conflicts, -⟩ := predicted.2.2 told_answered answered
  exact ⟨told, there, conflicts.mpr ⟨told, there⟩⟩

end Service

end Rulebook
