import Rulebook.Proofs.Document.Grammar
import Rulebook.Proofs.Json.DistinctKeys

/-!
# The verdict on a document

Validation shows one of three results: a critical message, nothing but that the document is valid, or
a list of errors that is not empty. `validate_outcome` says when each of them comes: the first if the
document cannot be read, the second if all its elements keep to the grammar, the third otherwise.
-/

set_option autoImplicit false

namespace Rulebook

namespace Verdict

/-- A verdict that shows a critical message and no errors. -/
def IsCritical (v : Verdict) : Prop :=
  ∃ message, v.toJson = .obj [("valid", .bool false), ("critical", .str message)]

/-- A verdict that shows neither errors nor a critical message. -/
def IsAccepted (v : Verdict) : Prop := v.toJson = .obj [("valid", .bool true)]

/-- A verdict that shows errors, at least one, and no critical message. -/
def IsRefused (v : Verdict) : Prop :=
  ∃ errors : List Text, errors ≠ [] ∧
    v.toJson = .obj [("valid", .bool false), ("errors", .arr (errors.map .str))]

/-- The two keys of a verdict are distinct. -/
private theorem errors_ne_critical : ("errors" : Text) ≠ "critical" := by decide

/-- The verdicts with a cause are the critical ones. -/
theorem isCritical_iff {v : Verdict} : v.IsCritical ↔ ∃ cause, v = .critical cause := by
  cases v with
  | critical cause => exact ⟨fun _ => ⟨cause, rfl⟩, fun _ => ⟨cause.message, rfl⟩⟩
  | _ => simp [IsCritical, toJson, errors_ne_critical]

/-- The verdict without errors is the accepting one. -/
theorem isAccepted_iff {v : Verdict} : v.IsAccepted ↔ v = .valid := by
  cases v <;> simp [IsAccepted, toJson]

/-- The verdicts with errors but without a cause are the refusing ones. -/
theorem isRefused_iff {v : Verdict} :
    v.IsRefused ↔ ∃ errors, errors ≠ [] ∧ v = .invalid errors := by
  have str_injective : Function.Injective Json.str := fun _ _ => Json.str.inj
  cases v with
  | invalid errors => simp [IsRefused, toJson, List.map_inj_right str_injective]
  | _ => simp [IsRefused, toJson, errors_ne_critical.symm]

end Verdict

namespace Document

/-- A document has no messages exactly if none of its elements has a defect. -/
theorem messages_eq_nil {bound : DepthBound} {ruleSets : List Json} :
    messages bound ruleSets = [] ↔ ∀ element ∈ ruleSets, WellFormed bound element := by
  rw [messages, List.flatMap_eq_nil_iff, List.forall_mem_zipIdx',
    List.forall_mem_iff_forall_getElem]
  refine forall_congr' fun position => forall_congr' fun lt => ?_
  exact List.map_eq_nil_iff.trans elementDefects_eq_nil

/-- A text of an array is read as its items. -/
theorem parse_of_array {source : Text} {items : List Json}
    (h : Json.Reader.strictDocument source = .ok (.arr items)) :
    parse (.value (.str source)) = .ok items := by
  rw [parse, parseText, h]

/-- A text of any other value is not read. -/
theorem parse_of_not_array {source : Text} {v : Json} (h : Json.Reader.strictDocument source = .ok v)
    (other : ∀ items, v ≠ .arr items) : ∃ cause, parse (.value (.str source)) = .error cause := by
  rw [parse, parseText, h]
  cases v with
  | arr items => exact absurd rfl (other items)
  | _ => exact ⟨_, rfl⟩

/-- What is read is the items of an array that a text stands for. -/
theorem exists_array_of_parse {content : Content} {ruleSets : List Json}
    (h : parse content = .ok ruleSets) : ∃ source, content = .value (.str source) ∧
      Json.Reader.strictDocument source = .ok (.arr ruleSets) := by
  cases content with
  | bytes octets => cases h
  | value v =>
    cases v with
    | str source =>
      rw [parse, parseText] at h
      refine ⟨source, rfl, ?_⟩
      cases read : Json.Reader.strictDocument source with
      | error fault =>
        rw [read] at h
        cases h
      | ok w =>
        rw [read] at h
        cases w with
        | arr items =>
          cases h
          rfl
        | _ => cases h
    | _ => cases h

/-- A document that can be read has no key twice in any of its objects. -/
theorem hasDistinctKeys_of_parse {content : Content} {ruleSets : List Json}
    (h : parse content = .ok ruleSets) : (Json.arr ruleSets).hasDistinctKeys = true := by
  obtain ⟨source, -, read⟩ := exists_array_of_parse h
  exact Json.Reader.hasDistinctKeys_of_strictDocument read

end Document

/-- A document that cannot be read gets the verdict on the cause. -/
theorem validate_of_error {bound : DepthBound} {content : Content} {cause : Critical}
    (h : Document.parse content = .error cause) : validate bound content = .critical cause := by
  unfold validate
  rw [h]

/-- A document that can be read gets the verdict on its messages. -/
theorem validate_of_ok {bound : DepthBound} {content : Content} {ruleSets : List Json}
    (h : Document.parse content = .ok ruleSets) :
    validate bound content = .ofMessages (Document.messages bound ruleSets) := by
  unfold validate
  rw [h]

/-- A document that can be read is valid exactly if its elements keep to the grammar. -/
theorem validate_eq_valid_iff {bound : DepthBound} {content : Content} {ruleSets : List Json}
    (h : Document.parse content = .ok ruleSets) :
    validate bound content = .valid ↔ ∀ element ∈ ruleSets, Document.WellFormed bound element := by
  rw [validate_of_ok h, ← Document.messages_eq_nil]
  cases Document.messages bound ruleSets <;> simp [Verdict.ofMessages]

/-- The valid verdict is the only one that counts as valid. -/
theorem Verdict.isValid_iff {v : Verdict} : v.isValid = true ↔ v = .valid := by
  cases v <;> simp [isValid]

/-- A valid document is one that can be read. -/
theorem exists_parse_of_valid {bound : DepthBound} {content : Content}
    (h : validate bound content = .valid) : ∃ ruleSets, Document.parse content = .ok ruleSets := by
  cases read : Document.parse content with
  | error cause =>
    rw [validate_of_error read] at h
    cases h
  | ok ruleSets => exact ⟨ruleSets, rfl⟩

/-- A document that can be read has no critical message. -/
theorem critical?_validate {bound : DepthBound} {content : Content} {ruleSets : List Json}
    (h : Document.parse content = .ok ruleSets) : (validate bound content).critical? = none := by
  rw [validate_of_ok h]
  cases Document.messages bound ruleSets <;> rfl

/-- A document that is valid under a bound is valid under every wider one. -/
theorem validate_mono {bound wider : DepthBound} (le : bound.AtMost wider) {content : Content}
    (h : validate bound content = .valid) : validate wider content = .valid := by
  obtain ⟨ruleSets, read⟩ := exists_parse_of_valid h
  rw [validate_eq_valid_iff read] at h ⊢
  intro element mem
  exact (h element mem).mono le

/-- Validation ends in exactly one of three results: a critical message if the document cannot be
read, acceptance if it is an array of elements that keep to the grammar, and errors otherwise. -/
theorem validate_outcome (bound : DepthBound) (content : Content) :
    let verdict := validate bound content
    let parsed := Document.parse content
    (verdict.IsCritical ↔ ∃ cause, parsed = .error cause) ∧
    (verdict.IsAccepted ↔ ∃ ruleSets, parsed = .ok ruleSets ∧
      ∀ element ∈ ruleSets, Document.WellFormed bound element) ∧
    (verdict.IsRefused ↔ ∃ ruleSets, parsed = .ok ruleSets ∧
      ∃ element ∈ ruleSets, ¬ Document.WellFormed bound element) ∧
    (verdict.IsCritical ∧ ¬ verdict.IsAccepted ∧ ¬ verdict.IsRefused ∨
      ¬ verdict.IsCritical ∧ verdict.IsAccepted ∧ ¬ verdict.IsRefused ∨
      ¬ verdict.IsCritical ∧ ¬ verdict.IsAccepted ∧ verdict.IsRefused) := by
  intro verdict parsed
  rw [Verdict.isCritical_iff, Verdict.isAccepted_iff, Verdict.isRefused_iff]
  cases hp : Document.parse content with
  | error cause =>
    have eq : verdict = .critical cause := validate_of_error hp
    simp [parsed, hp, eq]
  | ok ruleSets =>
    have valid : verdict = .valid ↔ ∀ element ∈ ruleSets, Document.WellFormed bound element :=
      validate_eq_valid_iff hp
    have eq : verdict = .ofMessages (Document.messages bound ruleSets) := validate_of_ok hp
    cases hm : Document.messages bound ruleSets with
    | nil =>
      have accepted : verdict = .valid := by rw [eq, hm, Verdict.ofMessages]
      simpa [parsed, hp, accepted] using valid.mp accepted
    | cons first more =>
      have refused : verdict = .invalid (first :: more) := by
        rw [eq, hm]
        rfl
      have broken : ¬ ∀ element ∈ ruleSets, Document.WellFormed bound element := by
        rw [← valid, refused]
        exact Verdict.noConfusion
      simpa [parsed, hp, refused] using broken

end Rulebook
