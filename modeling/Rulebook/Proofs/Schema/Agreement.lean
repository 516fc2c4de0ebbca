import Rulebook.Proofs.Schema.Acceptance
import Rulebook.Proofs.Json.DistinctKeys
import Rulebook.Proofs.Document.Verdict

/-!
# The exported schema and the validator agree

A report against the exported schema lists something for an element of a document exactly if the
validator does, as soon as the bound on depth admits the rules of that element: both say whether the
element keeps to the grammar. The schema knows no bound, so without that condition only one direction
is left, and it holds for every bound: what is valid conforms.

Objects that repeat a key are left out, because the schema looks only at the value that a key stands
for. No text is read as such an object.
-/

set_option autoImplicit false

namespace Rulebook.Schema

open Document (WellFormed WellFormedAction WellFormedRule)

variable {r : Resolver}

/-! ## Nothing to report -/

/-- A refusal is left out exactly if its condition holds. -/
theorem refuseUnless_eq_nil {condition : Bool} {refusal : Refusal} :
    refuseUnless condition refusal = [] ↔ condition = true := by
  cases condition <;> simp [refuseUnless]

/-- A schema is not violated if none of its keywords is. -/
theorem violations_cons_eq_nil {keyword : Keyword} {rest : Schema} {v : Json} :
    violations r (keyword :: rest) v = [] ↔
      keywordViolations r keyword v = [] ∧ violations r rest v = [] :=
  List.append_eq_nil_iff

/-- Nothing violates no keyword. -/
theorem violations_nil {v : Json} : violations r [] v = [] := rfl

/-- A schema of one keyword is violated where the keyword is. -/
theorem violations_singleton_eq_nil {keyword : Keyword} {v : Json} :
    violations r [keyword] v = [] ↔ keywordViolations r keyword v = [] := by
  rw [violations_cons_eq_nil, and_iff_left violations_nil]

/-- The keyword `type` is violated by values of other kinds. -/
theorem type_eq_nil {kinds : List Kind} {v : Json} :
    keywordViolations r (.type kinds) v = [] ↔ v.kind ∈ kinds :=
  refuseUnless_eq_nil.trans List.contains_iff_mem

/-- The schema for the kinds of a field is violated by values of other kinds. -/
theorem violations_kindSchema_eq_nil {spec : FieldSpec} {v : Json} :
    violations r (kindSchema spec) v = [] ↔ v.kind ∈ spec.kinds := by
  rw [kindSchema, violations_singleton_eq_nil, type_eq_nil]

/-- The keyword `required` is violated by objects that lack one of its names. -/
theorem required_eq_nil {names : List Text} {object : Members} :
    keywordViolations r (.required names) (.obj object) = [] ↔
      ∀ name ∈ names, object.has name = true := by
  have each : keywordViolations r (.required names) (.obj object) =
      names.flatMap fun name => refuseUnless (object.has name) (.missing name) := rfl
  rw [each, List.flatMap_eq_nil_iff]
  exact forall_congr' fun name => forall_congr' fun _ => refuseUnless_eq_nil

/-- Items are not violated if none of them violates the schema of items. -/
theorem items_eq_nil {schema : Schema} {items : List Json} :
    keywordViolations r (.items schema) (.arr items) = [] ↔
      ∀ item ∈ items, violations r schema item = [] := by
  rw [keywordViolations, List.flatMap_eq_nil_iff, List.forall_mem_zipIdx',
    List.forall_mem_iff_forall_getElem]
  refine forall_congr' fun position => forall_congr' fun lt => ?_
  exact List.map_eq_nil_iff

/-- Alternatives are not violated if one of them is accepted. -/
theorem anyOf_eq_nil {schemas : List Schema} {v : Json} :
    keywordViolations r (.anyOf schemas) v = [] ↔
      acceptsKeyword r (.anyOf schemas) v = true :=
  refuseUnless_eq_nil

/-- Properties are violated by an object if the value of one of them violates its schema. -/
theorem propertyViolations_eq_nil {schemas : List (Text × Schema)} {object : Members} :
    propertyViolations r schemas object = [] ↔
      ∀ entry ∈ schemas, ∀ v, object.get? entry.1 = some v → violations r entry.2 v = [] := by
  induction schemas with
  | nil => simp [propertyViolations]
  | cons entry rest ih =>
    obtain ⟨name, schema⟩ := entry
    rw [propertyViolations, List.append_eq_nil_iff, ih, List.forall_mem_cons]
    refine and_congr_left fun _ => ?_
    cases object.get? name <;> simp

/-- Sorting leaves nothing out. -/
theorem mergeSort_eq_nil {α : Type} {le : α → α → Bool} {items : List α} :
    items.mergeSort le = [] ↔ items = [] := by
  rw [← List.length_eq_zero_iff, List.length_mergeSort, List.length_eq_zero_iff]

/-- An object has no unexpected keys if all its keys are named. -/
theorem unexpectedKeys_eq_nil {schemas : List (Text × Schema)} {object : Members} :
    unexpectedKeys schemas object = [] ↔ ∀ key ∈ object.keys, ∃ entry ∈ schemas, entry.1 = key := by
  rw [unexpectedKeys, mergeSort_eq_nil, List.filter_eq_nil_iff]
  simp

/-- The properties of a table are not violated if no value of a field violates the field's schema and,
where other keys are excluded, every key is that of a field. -/
theorem properties_eq_nil {table : FieldTable} {schemaOf : FieldSpec → Schema} {closed : Bool}
    {object : Members} :
    keywordViolations r
      (.properties (table.map fun (name, spec) => (name, schemaOf spec)) closed) (.obj object) = [] ↔
      (∀ field ∈ table, ∀ v, object.get? field.1 = some v →
        violations r (schemaOf field.2) v = []) ∧
      (closed = true → ∀ key ∈ object.keys, ∃ spec, (key, spec) ∈ table) := by
  rw [keywordViolations, List.append_eq_nil_iff, propertyViolations_eq_nil, refuseUnless_eq_nil]
  refine and_congr ?_ ?_
  · constructor
    · rintro h ⟨name, spec⟩ mem v found
      exact h (name, schemaOf spec) (List.mem_map.mpr ⟨(name, spec), mem, rfl⟩) v found
    · rintro h _ mem v found
      obtain ⟨⟨name, spec⟩, listed, rfl⟩ := List.mem_map.mp mem
      exact h (name, spec) listed v found
  · cases closed with
    | false => simp
    | true =>
      rw [Bool.not_true, Bool.false_or, List.isEmpty_iff, unexpectedKeys_eq_nil]
      constructor
      · intro known _ key mem
        obtain ⟨_, listed, rfl⟩ := known key mem
        obtain ⟨⟨name, spec⟩, field, rfl⟩ := List.mem_map.mp listed
        exact ⟨spec, field⟩
      · intro known key mem
        obtain ⟨spec, field⟩ := known rfl key mem
        exact ⟨(key, schemaOf spec), List.mem_map.mpr ⟨(key, spec), field, rfl⟩, rfl⟩

/-! ## Actions, rules and rule sets -/

/-- An action conforms exactly if it keeps to the grammar. -/
theorem action_violations_eq_nil {v : Json} (distinct : v.hasDistinctKeys = true) :
    violations r action v = [] ↔ WellFormedAction v := by
  rw [action, violations_cons_eq_nil, violations_singleton_eq_nil, type_eq_nil]
  unfold WellFormedAction
  cases v with
  | obj members =>
    have names : (actionFields.map Prod.fst).Nodup := by decide
    have keys := (Json.hasDistinctKeys_obj.mp distinct).1
    have kind : (Json.obj members).kind ∈ [Kind.object] := List.mem_singleton.mpr rfl
    rw [and_iff_right kind, properties_eq_nil]
    simp only [violations_kindSchema_eq_nil, true_imp_iff]
    constructor
    · rintro ⟨kinds, known⟩
      refine ⟨members, rfl, fun key value mem => ?_⟩
      obtain ⟨spec, field⟩ := known key (List.mem_map_of_mem mem)
      exact ⟨spec, lookup_of_mem names field,
        kinds (key, spec) field value (Members.get?_of_mem keys mem)⟩
    · rintro ⟨_, same, h⟩
      cases same
      constructor
      · rintro ⟨name, spec⟩ field value found
        obtain ⟨spec', known, kind⟩ := h name value (Members.mem_of_get? found)
        cases known.symm.trans (lookup_of_mem names field)
        exact kind
      · intro key mem
        obtain ⟨⟨_, value⟩, present, rfl⟩ := List.mem_map.mp mem
        obtain ⟨spec, known, -⟩ := h _ value present
        exact ⟨spec, mem_of_lookup known⟩
  | _ => simp [Json.kind]

/-- Alternatives are reported as a whole, so a rule violates its definition exactly if it is not
accepted. -/
theorem rule_violations_iff_accepts {levels : Nat} {v : Json} :
    (resolver define (levels + 1)).violations .rule v = [] ↔
      (resolver define (levels + 1)).accepts .rule v = true := by
  have reported : (resolver define (levels + 1)).violations .rule v =
      violations (resolver define levels) [.anyOf [combination, [.ref .condition]]] v := rfl
  have accepted : (resolver define (levels + 1)).accepts .rule v =
      acceptsAll (resolver define levels) [.anyOf [combination, [.ref .condition]]] v := rfl
  rw [reported, accepted, violations_singleton_eq_nil, acceptsAll_singleton, anyOf_eq_nil]

/-- Whether a bound admits every rule of an element of a document. -/
def RulesWithin (bound : DepthBound) (element : Json) : Prop :=
  ∀ ruleSet node : Members, element = .obj ruleSet → ruleSet.get? "rule" = some (.obj node) →
    bound.Admits (RuleTree.deepest 1 node)

/-- The value of a rule conforms exactly if it is a well-formed rule under a bound that admits it. -/
theorem rule_violations_eq_nil {bound : DepthBound} {levels : Nat} {v : Json}
    (enough : v.nesting ≤ levels)
    (within : ∀ node, v = .obj node → bound.Admits (RuleTree.deepest 1 node)) :
    violations (resolver define (levels + 2)) [.ref .rule] v = [] ↔ WellFormedRule bound 1 v := by
  have reference : keywordViolations (resolver define (levels + 2)) (.ref .rule) v =
      (resolver define (levels + 2)).violations .rule v := rfl
  rw [violations_singleton_eq_nil, reference, rule_violations_iff_accepts]
  by_cases object : ∃ node, v = .obj node
  · obtain ⟨node, rfl⟩ := object
    exact accepts_rule_node enough (within node rfl)
  · exact ⟨fun h => absurd (exists_node_of_accepts_rule h) object,
      fun h => absurd h.exists_node object⟩

/-- The value of actions conforms exactly if it is an array of well-formed actions. -/
theorem actions_violations_eq_nil {levels : Nat} {v : Json} (distinct : v.hasDistinctKeys = true) :
    violations (resolver define (levels + 1)) [.type [.array], .items [.ref .action]] v = [] ↔
      ∃ items, v = .arr items ∧ ∀ item ∈ items, WellFormedAction item := by
  have reference (item : Json) (distinct : item.hasDistinctKeys = true) :
      violations (resolver define (levels + 1)) [.ref .action] item = [] ↔
        WellFormedAction item := by
    have reported : keywordViolations (resolver define (levels + 1)) (.ref .action) item =
        violations (resolver define levels) action item := rfl
    rw [violations_singleton_eq_nil, reported, action_violations_eq_nil distinct]
  rw [violations_cons_eq_nil, violations_singleton_eq_nil, type_eq_nil]
  cases v with
  | arr items =>
    have each := Json.hasDistinctKeys_arr.mp distinct
    have kind : (Json.arr items).kind ∈ [Kind.array] := List.mem_singleton.mpr rfl
    rw [items_eq_nil, and_iff_right kind]
    constructor
    · intro h
      exact ⟨items, rfl, fun item mem => (reference item (each item mem)).mp (h item mem)⟩
    · rintro ⟨_, same, h⟩ item mem
      cases same
      exact (reference item (each item mem)).mpr (h item mem)
  | _ => simp [Json.kind]

/-- The fields of a rule set conform exactly if each of them keeps to the grammar, as far as it is
there. -/
theorem mainFields_eq_nil {bound : DepthBound} {levels : Nat} {members : Members}
    (enough : (Json.obj members).nesting ≤ levels)
    (distinct : (Json.obj members).hasDistinctKeys = true)
    (within : RulesWithin bound (.obj members)) :
    keywordViolations (resolver define (levels + 2))
      (.properties (mainFields.map fun (name, spec) => (name, mainField spec)) false)
      (.obj members) = [] ↔
      (∀ value, members.get? "id" = some value → ∃ t, value = .str t) ∧
      (∀ value, members.get? "description" = some value → ∃ t, value = .str t) ∧
      (∀ value, members.get? "rule" = some value → WellFormedRule bound 1 value) ∧
      (∀ value, members.get? "actions" = some value →
        ∃ items, value = .arr items ∧ ∀ item ∈ items, WellFormedAction item) := by
  have values := (Json.hasDistinctKeys_obj.mp distinct).2
  have text (value : Json) :
      violations (resolver define (levels + 2)) (kindSchema { kinds := [.string] }) value = [] ↔
        ∃ t, value = .str t := by
    rw [violations_kindSchema_eq_nil, List.mem_singleton, Json.kind_eq_string]
  have rule (value : Json) (found : members.get? "rule" = some value) :
      violations (resolver define (levels + 2)) [.ref .rule] value = [] ↔
        WellFormedRule bound 1 value := by
    have := Json.nesting_lt_of_get? found
    refine rule_violations_eq_nil (by omega) ?_
    rintro node rfl
    exact within members node rfl found
  have actions (value : Json) (found : members.get? "actions" = some value) :
      violations (resolver define (levels + 2)) [.type [.array], .items [.ref .action]] value = [] ↔
        ∃ items, value = .arr items ∧ ∀ item ∈ items, WellFormedAction item :=
    actions_violations_eq_nil (values _ value (Members.mem_of_get? found))
  rw [properties_eq_nil]
  simp only [mainFields, List.forall_mem_cons, List.not_mem_nil, false_implies, implies_true,
    and_true, mainField, text, Bool.false_eq_true]
  refine and_congr_right fun _ => and_congr_right fun _ => and_congr ?_ ?_
  · exact forall_congr' fun value => forall_congr' fun found => rule value found
  · exact forall_congr' fun value => forall_congr' fun found => actions value found

/-- An element conforms exactly if it keeps to the grammar under a bound that admits its rules. -/
theorem ruleSet_violations_eq_nil {bound : DepthBound} {levels : Nat} {element : Json}
    (enough : element.nesting ≤ levels) (distinct : element.hasDistinctKeys = true)
    (within : RulesWithin bound element) :
    violations (resolver define (levels + 2)) ruleSet element = [] ↔ WellFormed bound element := by
  rw [ruleSet, violations_cons_eq_nil, violations_cons_eq_nil, violations_singleton_eq_nil,
    type_eq_nil]
  unfold WellFormed
  cases element with
  | obj members =>
    have kind : (Json.obj members).kind ∈ [Kind.object] := List.mem_singleton.mpr rfl
    have required : keywordViolations (resolver define (levels + 2))
        (.required (requiredNames mainFields)) (.obj members) = [] ↔
        ∃ value, Members.get? members "rule" = some value := by
      rw [← Members.has_iff, required_eq_nil]
      simp [requiredNames, mainFields]
    rw [and_iff_right kind, required, mainFields_eq_nil enough distinct within]
    constructor
    · rintro ⟨⟨rule, found⟩, id, description, rules, actions⟩
      exact ⟨members, rfl, id, description, ⟨rule, found, rules rule found⟩, actions⟩
    · rintro ⟨_, same, h⟩
      cases same
      obtain ⟨rule, found, wellFormed⟩ := h.rule
      refine ⟨⟨rule, found⟩, h.id, h.description, ?_, h.actions⟩
      intro value found'
      cases found.symm.trans found'
      exact wellFormed
  | _ => simp [Json.kind]

/-! ## Documents -/

/-- An element that keeps to the grammar has all its rules within the bound. -/
theorem RulesWithin.of_wellFormed {bound : DepthBound} {element : Json}
    (h : WellFormed bound element) : RulesWithin bound element := by
  obtain ⟨ruleSet, rfl, h⟩ := h
  intro _ node same found
  cases same
  obtain ⟨rule, found', wellFormed⟩ := h.rule
  cases found.symm.trans found'
  exact wellFormed.admits_deepest

/-- An element has its rules within a bound that admits as many levels as the element nests. -/
theorem RulesWithin.of_nesting {bound : DepthBound} {element : Json}
    (h : bound.Admits element.nesting) : RulesWithin bound element := by
  rintro ruleSet node rfl found
  have := Json.nesting_lt_of_get? found
  exact RuleTree.admits_deepest_of_nesting (h.mono (by omega))

/-- Whether a bound admits every rule of a document. -/
def DocumentWithin (bound : DepthBound) (v : Json) : Prop :=
  ∀ elements, v = .arr elements → ∀ element ∈ elements, RulesWithin bound element

/-- Whether a report against the exported schema lists something in an element of a document. -/
def ReportsAt (v : Json) (position : Nat) : Prop :=
  ∃ violation ∈ documentViolations v, ∃ rest, violation.path = .index position :: rest

/-- What is reported on an array is what each element violates, at the index of the element. -/
theorem mem_documentViolations {elements : List Json} {violation : Violation} :
    violation ∈ documentViolations (.arr elements) ↔
      ∃ position element, elements[position]? = some element ∧
        ∃ inner ∈ violations (resolverFor define (.arr elements)) ruleSet element,
          inner.below (.index position) = violation := by
  have kind : keywordViolations (resolverFor define (.arr elements)) (.type [.array])
      (.arr elements) = [] :=
    type_eq_nil.mpr (List.mem_singleton.mpr rfl)
  rw [documentViolations, sorted, List.mem_mergeSort, document, violations, violations,
    violations_nil, kind, List.nil_append, List.append_nil, keywordViolations, List.mem_flatMap]
  constructor
  · rintro ⟨⟨element, position⟩, listed, mem⟩
    obtain ⟨inner, mem, same⟩ := List.mem_map.mp mem
    exact ⟨position, element, List.mk_mem_zipIdx_iff_getElem?.mp listed, inner, mem, same⟩
  · rintro ⟨position, element, found, inner, mem, same⟩
    exact ⟨(element, position), List.mk_mem_zipIdx_iff_getElem?.mpr found,
      List.mem_map.mpr ⟨inner, mem, same⟩⟩

/-- Something is reported in an element exactly if the element breaks the grammar. -/
theorem reportsAt_iff {bound : DepthBound} {elements : List Json} {position : Nat} {element : Json}
    (distinct : (Json.arr elements).hasDistinctKeys = true)
    (found : elements[position]? = some element) (within : RulesWithin bound element) :
    ReportsAt (.arr elements) position ↔ ¬ WellFormed bound element := by
  have mem := List.mem_of_getElem? found
  have enough : element.nesting ≤ (Json.arr elements).nesting :=
    Nat.le_of_lt (Json.nesting_lt_of_mem mem)
  have conforms : violations (resolverFor define (.arr elements)) ruleSet element = [] ↔
      WellFormed bound element :=
    ruleSet_violations_eq_nil enough (Json.hasDistinctKeys_arr.mp distinct element mem) within
  rw [← conforms]
  constructor
  · rintro ⟨_, listed, rest, path⟩
    obtain ⟨position', element', found', inner, mem, rfl⟩ := mem_documentViolations.mp listed
    cases List.head_eq_of_cons_eq path
    cases found.symm.trans found'
    exact List.ne_nil_of_mem mem
  · intro violated
    obtain ⟨inner, mem⟩ := List.exists_mem_of_ne_nil _ violated
    exact ⟨inner.below (.index position),
      mem_documentViolations.mpr ⟨position, element, found, inner, mem, rfl⟩, inner.path, rfl⟩

/-- The validator has a message for an element exactly if the element breaks the grammar. -/
theorem elementMessages_ne_nil_iff {bound : DepthBound} {element : Json} {position : Nat} :
    Document.elementMessages bound element position ≠ [] ↔ ¬ WellFormed bound element := by
  rw [Document.elementMessages, Ne, List.map_eq_nil_iff, Document.elementDefects_eq_nil]

/-- A document whose rules lie within a bound has no schema messages exactly if its elements keep to
the grammar under that bound. -/
theorem errors_arr_eq_nil {bound : DepthBound} {elements : List Json}
    (distinct : (Json.arr elements).hasDistinctKeys = true)
    (within : ∀ element ∈ elements, RulesWithin bound element) :
    errors (.arr elements) = [] ↔ ∀ element ∈ elements, WellFormed bound element := by
  rw [errors, List.map_eq_nil_iff, List.eq_nil_iff_forall_not_mem]
  constructor
  · intro none element mem
    obtain ⟨position, found⟩ := List.mem_iff_getElem?.mp mem
    have reported := reportsAt_iff distinct found (within element mem)
    have silent : ¬ ReportsAt (.arr elements) position := by
      rintro ⟨violation, listed, -⟩
      exact none violation listed
    exact Classical.not_not.mp (mt reported.mpr silent)
  · intro h violation listed
    obtain ⟨position, element, found, inner, -, rfl⟩ := mem_documentViolations.mp listed
    have mem := List.mem_of_getElem? found
    have reported := reportsAt_iff distinct found (within element mem)
    exact reported.mp ⟨_, listed, inner.path, rfl⟩ (h element mem)

/-- A value that is no array has schema messages. -/
theorem errors_ne_nil {v : Json} (h : ∀ elements, v ≠ .arr elements) : errors v ≠ [] := by
  have refused : keywordViolations (resolverFor define v) (.type [.array]) v ≠ [] := by
    rw [Ne, type_eq_nil, List.mem_singleton, Json.kind_eq_array]
    rintro ⟨elements, same⟩
    exact h elements same
  rw [errors, documentViolations, sorted, Ne, List.map_eq_nil_iff, mergeSort_eq_nil, document,
    violations_cons_eq_nil]
  exact fun none => refused none.1

/-- A text of a document whose rules lie within a bound is valid under it exactly if the document has
no schema messages. -/
theorem isAccepted_iff_errors_eq_nil {bound : DepthBound} {source : Text} {v : Json}
    (h : Json.Reader.strictDocument source = .ok v) (within : DocumentWithin bound v) :
    (validate bound (.value (.str source))).IsAccepted ↔ errors v = [] := by
  rw [Verdict.isAccepted_iff]
  by_cases array : ∃ elements, v = .arr elements
  · obtain ⟨elements, rfl⟩ := array
    have distinct := Json.Reader.hasDistinctKeys_of_strictDocument h
    rw [validate_eq_valid_iff (Document.parse_of_array h),
      errors_arr_eq_nil distinct (within elements rfl)]
  · have other : ∀ elements, v ≠ .arr elements := fun elements same => array ⟨elements, same⟩
    obtain ⟨cause, unread⟩ := Document.parse_of_not_array h other
    rw [validate_of_error unread]
    exact iff_of_false Verdict.noConfusion (errors_ne_nil other)

/-- The exported schema and the validator agree. For each element of an array, something is reported
in the element exactly if the validator has a message for it, under every bound that admits its rules;
what is no array is refused by both. So a document has no schema messages exactly if each text of it
is valid under a bound that admits its rules, and some number of levels always does. A document that
is valid under whatever bound has no schema messages. -/
theorem schema_agrees_with_validator :
    (∀ elements, (Json.arr elements).hasDistinctKeys = true →
      ∀ position element, elements[position]? = some element →
      ∀ bound, RulesWithin bound element →
        (ReportsAt (.arr elements) position ↔
          Document.elementMessages bound element position ≠ [])) ∧
    (∀ v, (∀ elements, v ≠ .arr elements) → errors v ≠ [] ∧
      ∀ source, Json.Reader.strictDocument source = .ok v →
        ∀ bound, (validate bound (.value (.str source))).IsCritical) ∧
    (∀ source v, Json.Reader.strictDocument source = .ok v →
      (∃ levels : Nat, ∀ bound : DepthBound, bound.Admits levels → DocumentWithin bound v) ∧
      (∀ bound, DocumentWithin bound v →
        (errors v = [] ↔ ∀ other, Json.Reader.strictDocument other = .ok v →
          (validate bound (.value (.str other))).IsAccepted)) ∧
      ∀ bound, (validate bound (.value (.str source))).IsAccepted → errors v = []) := by
  refine ⟨?_, ?_, ?_⟩
  · intro elements distinct position element found bound within
    rw [elementMessages_ne_nil_iff, reportsAt_iff distinct found within]
  · intro v other
    refine ⟨errors_ne_nil other, fun source h bound => ?_⟩
    obtain ⟨cause, unread⟩ := Document.parse_of_not_array h other
    exact Verdict.isCritical_iff.mpr ⟨cause, validate_of_error unread⟩
  -- A document that is accepted is within the bound by itself, and any other one by hypothesis.
  · intro source v h
    refine ⟨⟨v.nesting, fun bound admits => ?_⟩, fun bound within => ?_, fun bound accepted => ?_⟩
    · rintro elements rfl element mem
      exact .of_nesting (admits.mono (Nat.le_of_lt (Json.nesting_lt_of_mem mem)))
    · constructor
      · intro none other h'
        exact (isAccepted_iff_errors_eq_nil h' within).mpr none
      · intro accepted
        exact (isAccepted_iff_errors_eq_nil h within).mp (accepted source h)
    · refine (isAccepted_iff_errors_eq_nil h ?_).mp accepted
      rintro elements rfl element mem
      have valid := Verdict.isAccepted_iff.mp accepted
      exact .of_wellFormed ((validate_eq_valid_iff (Document.parse_of_array h)).mp valid element mem)

/-- Schema and validator agree on a document with one rule set that keeps to the grammar and on one
whose second rule set lacks its rule. -/
theorem schema_agrees_on_leaf :
    let leaf : Json := .obj [("rule", .obj [("condition", .str "is_true"), ("property", .str "p")])]
    let source : Text := "[\x7b\"rule\":\x7b\"condition\":\"is_true\",\"property\":\"p\"\x7d\x7d]"
    let read := Json.Reader.strictDocument source
    (Json.arr [leaf, .obj []]).hasDistinctKeys = true ∧
      ReportsAt (.arr [leaf, .obj []]) 1 ∧ ¬ ReportsAt (.arr [leaf, .obj []]) 0 ∧
      errors (.obj []) ≠ [] ∧ read = .ok (.arr [leaf]) ∧ errors (.arr [leaf]) = [] := by
  intro leaf source read
  obtain ⟨elementwise, others, texts⟩ := schema_agrees_with_validator
  have distinct : (Json.arr [leaf, .obj []]).hasDistinctKeys = true := by decide
  have reads : read = .ok (.arr [leaf]) := by
    have value : read.toOption = some (.arr [leaf]) := by decide +kernel
    cases hr : read with
    | error fault =>
      rw [hr] at value
      cases value
    | ok v =>
      rw [hr] at value
      exact congrArg Except.ok (Option.some.inj value)
  have accepted : (validate (.integer 1) (.value (.str source))).IsAccepted := by
    rw [Verdict.isAccepted_iff]
    decide +kernel
  have within (element : Json) (mem : element ∈ [leaf, .obj []]) :
      RulesWithin (.integer 3) element := by
    have all : ∀ element ∈ [leaf, .obj []], (DepthBound.integer 3).Admits element.nesting := by decide
    exact .of_nesting (all element mem)
  have reported := elementwise _ distinct 1 (.obj []) rfl _ (within _ (by simp))
  have silent := elementwise _ distinct 0 leaf rfl _ (within _ (by simp))
  refine ⟨distinct, ?_, ?_, ?_, reads, (texts source _ reads).2.2 (.integer 1) accepted⟩
  · exact reported.mpr (by decide +kernel)
  · exact mt silent.mp (by decide +kernel)
  · exact (others (.obj []) (by simp)).1

end Rulebook.Schema
