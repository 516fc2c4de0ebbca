import Rulebook.Proofs.Lists
import Rulebook.Proofs.Schema.Agreement

/-!
# Where violations are listed

A report on a whole is taken apart: `inPart` gives what it lists in one part, seen from that part. Each
keyword that descends lists in a part exactly what its schema finds there, so a report against the
exported schema, at whatever place of the document, is the report of the schema for that place. Sorting
changes the order alone.
-/

set_option autoImplicit false

namespace Rulebook.Schema

variable {r : Resolver} {step : PathStep}

/-! ## Parts -/

/-- A violation in a part, seen from the part. -/
def Violation.inside? (step : PathStep) (v : Violation) : Option Violation :=
  match v.path with
  | [] => none
  | first :: rest => if first = step then some { v with path := rest } else none

/-- What is listed in a part, seen from the part. -/
def inPart (step : PathStep) (vs : List Violation) : List Violation :=
  vs.filterMap (Violation.inside? step)

/-- What two lists of violations have below a step is what each of them has. -/
theorem inPart_append (vs ws : List Violation) :
    inPart step (vs ++ ws) = inPart step vs ++ inPart step ws :=
  List.filterMap_append

/-- A refusal of the value itself is not below any step. -/
theorem inPart_refuseUnless {condition : Bool} {refusal : Refusal} :
    inPart step (refuseUnless condition refusal) = [] := by
  cases condition <;> simp [refuseUnless, inPart, Violation.inside?]

/-- All that is moved below a step is below it. -/
theorem inPart_below (vs : List Violation) : inPart step (vs.map (Violation.below step)) = vs := by
  rw [inPart, List.filterMap_map]
  have undone : Violation.inside? step ∘ Violation.below step = some := by
    funext v
    simp [Violation.inside?, Violation.below]
  rw [undone, List.filterMap_some]

/-- What is moved below another step is not below this one. -/
theorem inPart_below_of_ne {other : PathStep} (different : other ≠ step) (vs : List Violation) :
    inPart step (vs.map (Violation.below other)) = [] := by
  rw [inPart, List.filterMap_map, List.filterMap_eq_nil_iff]
  intro v _
  simp [Violation.inside?, Violation.below, different]

/-! ## Keywords -/

/-- A schema of one keyword has the violations of the keyword. -/
theorem violations_singleton {keyword : Keyword} {v : Json} :
    violations r [keyword] v = keywordViolations r keyword v :=
  List.append_nil _

/-- An object is of the kind that `type` asks for. -/
theorem type_object (members : Members) :
    keywordViolations r (.type [.object]) (.obj members) = [] := rfl

/-- An array is of the kind that `type` asks for. -/
theorem type_array (items : List Json) : keywordViolations r (.type [.array]) (.arr items) = [] := rfl

/-- A value of a wrong kind is refused at its own place. -/
theorem inPart_type {kinds : List Kind} {v : Json} :
    inPart step (keywordViolations r (.type kinds) v) = [] :=
  inPart_refuseUnless

/-- A missing name is refused at the place of the object. -/
theorem inPart_required {names : List Text} {object : Members} :
    inPart step (keywordViolations r (.required names) (.obj object)) = [] := by
  have each : keywordViolations r (.required names) (.obj object) =
      names.flatMap fun name => refuseUnless (object.has name) (.missing name) := rfl
  rw [each, inPart, List.filterMap_flatMap, List.flatMap_eq_nil_iff]
  intro name _
  exact inPart_refuseUnless

/-- What is listed in an item is what the schema of items finds there. -/
theorem inPart_items {schema : Schema} {items : List Json} {position : Nat} {item : Json}
    (found : items[position]? = some item) :
    inPart (.index position) (keywordViolations r (.items schema) (.arr items)) =
      violations r schema item := by
  rw [keywordViolations, inPart, List.filterMap_flatMap]
  have met : (item, position) ∈ items.zipIdx := List.mk_mem_zipIdx_iff_getElem?.mpr found
  rw [flatMap_eq_of_mem (nodup_zipIdx items) met]
  · exact inPart_below _
  · -- One place holds one item, so another item stands in another place.
    rintro ⟨other, place⟩ listed different
    apply inPart_below_of_ne
    rintro same
    cases same
    cases found.symm.trans (List.mk_mem_zipIdx_iff_getElem?.mp listed)
    exact different rfl

/-- Properties are violated name by name, each below its own step. -/
theorem propertyViolations_eq_flatMap (schemas : List (Text × Schema)) (object : Members) :
    propertyViolations r schemas object = schemas.flatMap fun (name, schema) =>
      (object.get? name).elim [] fun v =>
        (violations r schema v).map (Violation.below (.key name)) := by
  induction schemas with
  | nil => rfl
  | cons entry rest ih =>
    obtain ⟨name, schema⟩ := entry
    rw [propertyViolations, List.flatMap_cons, ih]
    dsimp only
    cases object.get? name <;> rfl

/-- What is listed in a property of a table is what the schema of the field finds there. -/
theorem inPart_properties {table : FieldTable} {schemaOf : FieldSpec → Schema} {closed : Bool}
    {object : Members} (distinct : (table.map Prod.fst).Nodup) {name : Text} {spec : FieldSpec}
    (field : (name, spec) ∈ table) :
    inPart (.key name) (keywordViolations r
      (.properties (table.map fun (name, spec) => (name, schemaOf spec)) closed) (.obj object)) =
      (object.get? name).elim [] (violations r (schemaOf spec)) := by
  rw [keywordViolations, inPart_append, inPart_refuseUnless, List.append_nil,
    propertyViolations_eq_flatMap, List.flatMap_map, inPart, List.filterMap_flatMap,
    flatMap_eq_of_key distinct field]
  · dsimp only
    cases object.get? name with
    | none => rfl
    | some v => exact inPart_below _
  · rintro ⟨other, other_spec⟩ _ different
    dsimp only at different ⊢
    cases object.get? other with
    | none => rfl
    | some v =>
      apply inPart_below_of_ne
      intro same
      exact different (PathStep.key.inj same)

/-! ## The exported schema -/

/-- An array is reported in its items alone. -/
theorem violations_array {schema : Schema} (items : List Json) :
    violations r [.type [.array], .items schema] (.arr items) =
      keywordViolations r (.items schema) (.arr items) := by
  rw [violations, violations_singleton, type_array, List.nil_append]

/-- Below a field of a rule set stand the violations of its value. -/
theorem inPart_ruleSet {members : Members} {name : Text} {spec : FieldSpec}
    (field : (name, spec) ∈ mainFields) :
    inPart (.key name) (violations r ruleSet (.obj members)) =
      (members.get? name).elim [] (violations r (mainField spec)) := by
  rw [ruleSet, violations, violations, violations_singleton, inPart_append, inPart_append,
    inPart_type, inPart_required, inPart_properties (by decide) field]
  rfl

/-- Below a position of the actions stand the violations of the action there. -/
theorem inPart_actions {items : List Json} {position : Nat} {item : Json}
    (found : items[position]? = some item) :
    inPart (.index position) (violations r [.type [.array], .items [.ref .action]] (.arr items)) =
      r.violations .action item := by
  rw [violations_array, inPart_items found, violations_singleton, keywordViolations]

/-- What is listed on an array before it is sorted, element by element. -/
theorem violations_document (elements : List Json) :
    violations r document (.arr elements) = elements.zipIdx.flatMap fun (element, position) =>
      (violations r ruleSet element).map (Violation.below (.index position)) := by
  rw [document, violations_array, keywordViolations]

/-- Below a position of a document stand the violations of the element there. -/
theorem inPart_document {elements : List Json} {position : Nat} {element : Json}
    (found : elements[position]? = some element) :
    inPart (.index position) (violations r document (.arr elements)) =
      violations r ruleSet element := by
  rw [document, violations_array, inPart_items found]

/-- The report has the violations of the document in another order. -/
theorem documentViolations_perm (v : Json) :
    (documentViolations v).Perm (violations (resolverFor define v) document v) :=
  List.mergeSort_perm _ _

/-! ## Places -/

/-- The places of what is listed at a place or below it, seen from there. -/
def placesFrom (place : List PathStep) (vs : List Violation) : List (List PathStep) :=
  vs.filterMap fun v => v.path.dropPrefix? place

/-- From the root the places are those of all violations. -/
theorem placesFrom_nil (vs : List Violation) : placesFrom [] vs = vs.map Violation.path := by
  rw [placesFrom, ← List.filterMap_eq_map]
  congr 1
  funext v
  exact List.dropPrefix?_nil

/-- What is listed at a place in a part is listed in the part. -/
theorem placesFrom_cons (step : PathStep) (place : List PathStep) (vs : List Violation) :
    placesFrom (step :: place) vs = placesFrom place (inPart step vs) := by
  rw [placesFrom, placesFrom, inPart, List.filterMap_filterMap]
  congr 1
  funext v
  obtain ⟨path, refusal⟩ := v
  cases path with
  | nil => rfl
  | cons first rest =>
    by_cases same : first = step
    · simp [List.dropPrefix?, Violation.inside?, same]
    · simp [List.dropPrefix?, Violation.inside?, same]

/-- In another order violations have the same places. -/
theorem placesFrom_perm {vs ws : List Violation} (same : vs.Perm ws) (place : List PathStep) :
    (placesFrom place vs).Perm (placesFrom place ws) :=
  same.filterMap _

end Rulebook.Schema
