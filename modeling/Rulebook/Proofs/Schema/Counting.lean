import Rulebook.Proofs.Schema.Places

/-!
# How many violations answer how many defects

A report against the exported schema has at most as many messages as the validator. A rule that does
not conform is one violation at the rule, however many defects lie in its tree. An action has one
violation for each key whose value is of a wrong kind, and one more for all its unknown keys together;
so there the two counts differ by the unknown keys beyond the first. Every other field is answered
one to one.

The violations of an action come in the order of the field table and its defects in the order of its
members. Neither repeats a key, so the two orders hold the same keys once each.
-/

set_option autoImplicit false

namespace Rulebook.Schema

variable {r : Resolver} {bound : DepthBound}

/-! ## Defects of an action -/

/-- The field whose kind a defect is about. -/
def wrongKind? : Defect → Option Text
  | .wrongKind field _ _ => some field
  | _ => none

/-- The fields that defects are about the kinds of. -/
def wrongKinds (defects : List Defect) : List Text := defects.filterMap wrongKind?

/-- Whether a defect is an unknown key of an action. -/
def isUnknownKey : Defect → Bool
  | .unknownAction _ => true
  | _ => false

/-- The places of the violations of an action, told from its defects. -/
def actionPlaces : Json → List (List PathStep)
  | .obj members =>
    let defects := actionDefects (.obj members)
    (wrongKinds defects).map (fun key => [.key key]) ++
      if defects.any isUnknownKey then [[]] else []
  | _ => [[]]

/-- The places of an action are those of wrong kinds, and one for all keys that are unknown. -/
theorem length_actionPlaces (action : Json) :
    (actionPlaces action).length =
      (wrongKinds (actionDefects action)).length +
        ((actionDefects action).any isUnknownKey).toNat := by
  cases action with
  | obj members =>
    rw [actionPlaces, List.length_append, List.length_map]
    cases (actionDefects (.obj members)).any isUnknownKey <;> rfl
  | _ => rfl

/-- Wrong kinds and unknown keys are no more than the defects. -/
theorem count_le_length (defects : List Defect) :
    (wrongKinds defects).length + (defects.any isUnknownKey).toNat ≤ defects.length := by
  induction defects with
  | nil => exact Nat.le_refl 0
  | cons defect rest ih =>
    have one := Bool.toNat_le (rest.any isUnknownKey)
    rw [wrongKinds] at ih ⊢
    cases defect <;> simp [List.filterMap_cons, wrongKind?, isUnknownKey] <;> omega

/-! ## Ill-typed keys -/

/-- Whether an object has a value of a wrong kind for a field. -/
def hasMisfit (object : Members) (field : Text × FieldSpec) : Bool :=
  (object.get? field.1).any fun v => !field.2.kinds.contains v.kind

/-- The fields of actions that an object has values of wrong kinds for, in the order of the table. -/
def misfits (object : Members) : List Text :=
  (actionFields.filter (hasMisfit object)).map Prod.fst

/-- No member is listed twice among those of a wrong kind. -/
theorem nodup_misfits (object : Members) : (misfits object).Nodup :=
  nodup_actionFields.sublist (List.filter_sublist.map Prod.fst)

/-- The members of a wrong kind are those whose value is of no kind that their field takes. -/
theorem mem_misfits {object : Members} {key : Text} (distinct : object.keys.Nodup) :
    key ∈ misfits object ↔ ∃ value, (key, value) ∈ object ∧
      ∃ spec, actionFields.lookup key = some spec ∧ value.kind ∉ spec.kinds := by
  rw [misfits, List.mem_map]
  constructor
  · rintro ⟨⟨_, spec⟩, listed, rfl⟩
    obtain ⟨field, misfit⟩ := List.mem_filter.mp listed
    obtain ⟨value, found, kind⟩ := (Option.any_eq_true _ _).mp misfit
    refine ⟨value, Members.mem_of_get? found, spec, lookup_of_mem nodup_actionFields field, ?_⟩
    simpa using kind
  · rintro ⟨value, mem, spec, known, kind⟩
    refine ⟨(key, spec), List.mem_filter.mpr ⟨mem_of_lookup known, ?_⟩, rfl⟩
    simp [hasMisfit, Members.get?_of_mem distinct mem, kind]

/-- The validator finds these keys in the order of the members, the schema in the order of the table. -/
theorem wrongKinds_perm {object : Members} (distinct : object.keys.Nodup) :
    (wrongKinds (actionDefects (.obj object))).Perm (misfits object) := by
  let misfit (member : Text × Json) : Bool :=
    (actionFields.lookup member.1).any fun spec => !spec.kinds.contains member.2.kind
  have keywise (member : Text × Json) :
      wrongKinds (actionKeyDefects member.1 member.2) =
        if misfit member then [member.1] else [] := by
    obtain ⟨key, value⟩ := member
    unfold misfit actionKeyDefects
    cases known : actionFields.lookup key with
    | none => rfl
    | some spec =>
      have declared : spec.kinds ≠ [] := kinds_of_actionField (mem_of_lookup known)
      by_cases kind : value.kind ∈ spec.kinds
      · simp [kindDefects, kind, wrongKinds]
      · simp [kindDefects, kind, wrongKinds, wrongKind?, declared]
  have listed : wrongKinds (actionDefects (.obj object)) =
      (object.filter misfit).map Prod.fst := by
    rw [actionDefects, wrongKinds, List.filterMap_flatMap, ← flatMap_ite_singleton]
    exact List.flatMap_congr fun member _ => keywise member
  -- Neither list repeats a key, so it is enough that both have the same ones.
  rw [listed, List.perm_ext_iff_of_nodup ?_ (nodup_misfits object)]
  · intro key
    rw [mem_misfits distinct]
    simp [misfit, and_assoc, Option.any_eq_true]
  · exact List.Nodup.sublist (List.filter_sublist.map Prod.fst) distinct

/-- The properties of an action are violated at the members of a wrong kind. -/
theorem propertyViolations_places (object : Members) :
    (propertyViolations r (actionFields.map fun (name, spec) => (name, kindSchema spec)) object).map
      Violation.path = (misfits object).map fun key => [.key key] := by
  rw [propertyViolations_eq_flatMap, List.flatMap_map, List.map_flatMap, misfits, List.map_map,
    ← flatMap_ite_singleton]
  apply List.flatMap_congr
  rintro ⟨name, spec⟩ _
  unfold hasMisfit
  dsimp only
  cases object.get? name with
  | none => rfl
  | some v =>
    have kinds : violations r (kindSchema spec) v =
        refuseUnless (spec.kinds.contains v.kind) (.notOfKind v spec.kinds) := by
      rw [kindSchema, violations_singleton, keywordViolations]
    rw [Option.elim_some, Option.any_some, kinds]
    cases spec.kinds.contains v.kind <;> rfl

/-! ## Unknown keys -/

/-- The validator finds an unknown key exactly if the schema has unexpected keys to report. -/
theorem any_isUnknownKey (object : Members) (schemaOf : FieldSpec → Schema) :
    (actionDefects (.obj object)).any isUnknownKey =
      !(unexpectedKeys (actionFields.map fun (name, spec) => (name, schemaOf spec))
        object).isEmpty := by
  have keywise (key : Text) (value : Json) :
      (actionKeyDefects key value).any isUnknownKey = false ↔
        ∃ field ∈ actionFields, field.1 = key := by
    unfold actionKeyDefects
    cases known : actionFields.lookup key with
    | none =>
      have unlisted : ¬ ∃ field ∈ actionFields, field.1 = key := by
        rintro ⟨field, listed, rfl⟩
        simpa using List.lookup_eq_none_iff.mp known field listed
      simp [unlisted, isUnknownKey]
    | some spec =>
      have listed : ∃ field ∈ actionFields, field.1 = key :=
        ⟨(key, spec), mem_of_lookup known, rfl⟩
      by_cases free : spec.kinds = [] ∨ value.kind ∈ spec.kinds <;>
        simp [kindDefects, free, listed, isUnknownKey]
  rw [← Bool.not_inj_iff, Bool.not_not, Bool.eq_iff_iff, Bool.not_eq_true', List.isEmpty_iff,
    unexpectedKeys_eq_nil, actionDefects, List.any_flatMap, List.any_eq_false]
  constructor
  · intro known key mem
    obtain ⟨⟨_, value⟩, member, rfl⟩ := List.mem_map.mp mem
    have no_unknown := Bool.eq_false_of_not_eq_true (known _ member)
    obtain ⟨field, listed, same⟩ := (keywise _ value).mp no_unknown
    exact ⟨(field.1, schemaOf field.2), List.mem_map_of_mem listed, same⟩
  · rintro known ⟨key, value⟩ member
    obtain ⟨_, listed, same⟩ := known key (List.mem_map_of_mem member)
    obtain ⟨field, mem, rfl⟩ := List.mem_map.mp listed
    rw [Bool.not_eq_true]
    exact (keywise key value).mpr ⟨field, mem, same⟩

/-! ## An action -/

/-- The places of the violations of an action are those that its defects tell. -/
theorem action_places_perm {v : Json} (distinct : v.hasDistinctKeys = true) :
    ((violations r action v).map Violation.path).Perm (actionPlaces v) := by
  cases v with
  | obj members =>
    have keys := (Json.hasDistinctKeys_obj.mp distinct).1
    rw [action, violations, violations_singleton, type_object, List.nil_append, keywordViolations,
      List.map_append, propertyViolations_places, actionPlaces, any_isUnknownKey members kindSchema]
    apply ((wrongKinds_perm keys).symm.map _).append
    apply List.Perm.of_eq
    dsimp only
    generalize unexpectedKeys _ _ = extra
    cases extra <;> rfl
  | _ => exact List.Perm.refl _

/-- An action has no more violations than defects. -/
theorem action_violations_le {v : Json} (distinct : v.hasDistinctKeys = true) :
    (violations r action v).length ≤ (actionDefects v).length := by
  have places := (action_places_perm (r := r) distinct).length_eq
  rw [List.length_map, length_actionPlaces] at places
  rw [places]
  exact count_le_length _

/-! ## A rule -/

/-- A rule that does not conform is one violation at the rule. -/
theorem rule_violations_eq {levels : Nat} {v : Json} :
    violations (resolver define (levels + 1)) [.ref .rule] v =
      refuseUnless ((resolver define (levels + 1)).accepts .rule v) (.noAlternative v) := by
  have reported : violations (resolver define (levels + 1)) [.ref .rule] v =
      violations (resolver define levels) [.anyOf [combination, [.ref .condition]]] v :=
    violations_singleton
  have accepted : (resolver define (levels + 1)).accepts .rule v =
      acceptsAll (resolver define levels) [.anyOf [combination, [.ref .condition]]] v := rfl
  rw [reported, accepted, violations_singleton, keywordViolations, acceptsAll, acceptsAll,
    Bool.and_true, acceptsKeyword]

/-- A condition gives one refusal at most. -/
theorem length_refuseUnless_le {condition : Bool} {refusal : Refusal} :
    (refuseUnless condition refusal).length ≤ 1 := by
  cases condition <;> simp [refuseUnless]

/-- A rule is refused once at most, however much is wrong below it. -/
theorem rule_violations_le_one {levels : Nat} {v : Json} :
    (violations (resolver define (levels + 1)) [.ref .rule] v).length ≤ 1 := by
  rw [rule_violations_eq]
  exact length_refuseUnless_le

/-- The walk over a rule tree finds a defect where the rule does not conform. -/
theorem rule_violations_le {levels : Nat} {node : Members}
    (enough : (Json.obj node).nesting ≤ levels) :
    (violations (resolver define (levels + 2)) [.ref .rule] (.obj node)).length ≤
      (RuleTree.defects bound (.obj node)).length := by
  by_cases none : RuleTree.defects bound (.obj node) = []
  · -- A tree without defects lies within the bound, so none has to be assumed.
    have keeps := Document.ruleTree_defects_eq_nil.mp none
    have within (other : Members) (same : Json.obj node = .obj other) :
        bound.Admits (RuleTree.deepest 1 other) := by
      cases same
      exact keeps.admits_deepest
    rw [(rule_violations_eq_nil enough within).mpr keeps]
    exact Nat.zero_le _
  · exact rule_violations_le_one.trans (List.length_pos_of_ne_nil none)

/-! ## Items -/

/-- Items have the violations of each of them. -/
theorem length_items (schema : Schema) (items : List Json) :
    (keywordViolations r (.items schema) (.arr items)).length =
      (items.map fun item => (violations r schema item).length).sum := by
  rw [keywordViolations]
  apply length_flatMap_zipIdx
  intro item position
  exact List.length_map _

/-- Items have no more violations than defects if none of them has. -/
theorem items_violations_le {schema : Schema} {items : List Json} {defects : Json → List Defect}
    (each : ∀ item ∈ items, (violations r schema item).length ≤ (defects item).length) :
    (keywordViolations r (.items schema) (.arr items)).length ≤ (items.flatMap defects).length := by
  rw [length_items, List.length_flatMap]
  exact List.sum_le_sum each

/-! ## The fields of a rule set -/

/-- Actions have no more violations than defects. -/
theorem actions_violations_le {levels : Nat} {items : List Json}
    (distinct : (Json.arr items).hasDistinctKeys = true) :
    (violations (resolver define (levels + 1)) [.type [.array], .items [.ref .action]]
      (.arr items)).length ≤ (actionsDefects (.arr items)).length := by
  have each := Json.hasDistinctKeys_arr.mp distinct
  have reference (item : Json) : violations (resolver define (levels + 1)) [.ref .action] item =
      violations (resolver define levels) action item := violations_singleton
  rw [violations_array]
  apply items_violations_le
  intro item mem
  rw [reference]
  exact action_violations_le (each item mem)

/-- A value of a wrong kind is one violation. -/
theorem misfit_violations_le_one {levels : Nat} {name : Text} {spec : FieldSpec}
    (field : (name, spec) ∈ mainFields) {v : Json} (misfit : v.kind ∉ spec.kinds) :
    (violations (resolver define (levels + 1)) (mainField spec) v).length ≤ 1 := by
  obtain ⟨-, -, -, array⟩ := declared_of_mainField field
  unfold mainField
  split
  · exact rule_violations_le_one
  · next actions =>
    rw [array actions] at misfit
    have no_items :
        keywordViolations (resolver define (levels + 1)) (.items [.ref .action]) v = [] := by
      cases v with
      | arr => exact absurd (List.mem_singleton.mpr rfl) misfit
      | _ => rfl
    rw [violations, violations_singleton, no_items, List.append_nil]
    exact length_refuseUnless_le
  · rw [kindSchema, violations_singleton]
    exact length_refuseUnless_le

/-- A value of a right kind has no more violations than its nested check finds defects. -/
theorem fit_violations_le {levels : Nat} {container : Members} {name : Text} {spec : FieldSpec}
    (field : (name, spec) ∈ mainFields) {v : Json} (distinct : v.hasDistinctKeys = true)
    (enough : v.nesting ≤ levels) (fits : v.kind ∈ spec.kinds) :
    (violations (resolver define (levels + 2)) (mainField spec) v).length ≤
      (Document.nestedCheck bound container spec.check v).length := by
  obtain ⟨-, -, object, array⟩ := declared_of_mainField field
  unfold mainField
  split
  · next rule =>
    rw [object rule] at fits
    obtain ⟨node, rfl⟩ := Json.kind_eq_object.mp (List.mem_singleton.mp fits)
    rw [rule]
    exact rule_violations_le enough
  · next actions =>
    rw [array actions] at fits
    obtain ⟨items, rfl⟩ := Json.kind_eq_array.mp (List.mem_singleton.mp fits)
    rw [actions]
    exact actions_violations_le distinct
  · rw [violations_kindSchema_eq_nil.mpr fits]
    exact Nat.zero_le _

/-- What is reported of a field of a rule set, whether in it or for its absence. -/
def fieldViolations (r : Resolver) (members : Members) (field : Text × FieldSpec) : List Violation :=
  (if field.2.required then refuseUnless (members.has field.1) (.missing field.1) else []) ++
    (members.get? field.1).elim [] fun v =>
      (violations r (mainField field.2) v).map (Violation.below (.key field.1))

/-- A field of a rule set has no more violations than defects. -/
theorem fieldViolations_le {levels : Nat} {members : Members} {name : Text} {spec : FieldSpec}
    (field : (name, spec) ∈ mainFields) (distinct : (Json.obj members).hasDistinctKeys = true)
    (enough : (Json.obj members).nesting ≤ levels) :
    (fieldViolations (resolver define (levels + 2)) members (name, spec)).length ≤
      (Document.fieldDefects bound name spec members).length := by
  obtain ⟨declared, -⟩ := declared_of_mainField field
  unfold fieldViolations Document.fieldDefects
  dsimp only
  cases found : members.get? name with
  | none =>
    rw [Option.elim_none, List.append_nil]
    cases required : spec.required with
    | false => exact Nat.zero_le _
    | true =>
      rw [fieldDefects_of_absent found required]
      exact length_refuseUnless_le
  | some v =>
    have present : members.has name = true := Members.has_iff.mpr ⟨v, found⟩
    have not_missing :
        (if spec.required then refuseUnless (members.has name) (.missing name) else []) = [] := by
      rw [present]
      exact ite_self []
    rw [not_missing, List.nil_append, Option.elim_some, List.length_map]
    by_cases fits : v.kind ∈ spec.kinds
    · have inside := Json.nesting_lt_of_get? found
      have values := (Json.hasDistinctKeys_obj.mp distinct).2
      rw [fieldDefects_of_fit found fits]
      exact fit_violations_le field (values _ v (Members.mem_of_get? found)) (by omega) fits
    · rw [fieldDefects_of_misfit found declared fits]
      exact misfit_violations_le_one field fits

/-- The required names of a table are those of its required fields, in order. -/
theorem requiredNames_flatMap {α : Type} (table : FieldTable) (f : Text → List α) :
    (requiredNames table).flatMap f =
      table.flatMap fun field => if field.2.required then f field.1 else [] := by
  induction table with
  | nil => rfl
  | cons field rest ih =>
    rw [requiredNames] at ih ⊢
    cases h : field.2.required <;> simp [h, ih]

/-- A rule set is reported field by field, apart from the order. -/
theorem length_ruleSet (members : Members) :
    (violations r ruleSet (.obj members)).length =
      (mainFields.map fun field => (fieldViolations r members field).length).sum := by
  have absent : keywordViolations r (.required (requiredNames mainFields)) (.obj members) =
      mainFields.flatMap fun field =>
        if field.2.required then refuseUnless (members.has field.1) (.missing field.1) else [] :=
    requiredNames_flatMap mainFields _
  have present : keywordViolations r
      (.properties (mainFields.map fun (name, spec) => (name, mainField spec)) false) (.obj members) =
      mainFields.flatMap fun field => (members.get? field.1).elim [] fun v =>
        (violations r (mainField field.2) v).map (Violation.below (.key field.1)) := by
    rw [keywordViolations, propertyViolations_eq_flatMap, List.flatMap_map]
    exact List.append_nil _
  rw [ruleSet, violations, violations, violations_singleton, type_object, absent, present,
    List.nil_append, List.length_append, List.length_flatMap, List.length_flatMap,
    ← List.sum_map_add]
  congr 1
  apply List.map_congr_left
  intro field _
  rw [fieldViolations, List.length_append]

/-- An element has no more violations than defects. -/
theorem element_violations_le {levels : Nat} {element : Json}
    (distinct : element.hasDistinctKeys = true) (enough : element.nesting ≤ levels) :
    (violations (resolver define (levels + 2)) ruleSet element).length ≤
      (Document.elementDefects bound element).length := by
  cases element with
  | obj members =>
    rw [length_ruleSet, Document.elementDefects, Document.ruleSetDefects, List.length_flatMap]
    apply List.sum_le_sum
    rintro ⟨name, spec⟩ field
    exact fieldViolations_le field distinct enough
  | _ => exact Nat.le_refl 1

/-! ## Documents -/

/-- A report has no more errors than the validator has messages. -/
theorem errors_length_le {elements : List Json}
    (distinct : (Json.arr elements).hasDistinctKeys = true) :
    (errors (.arr elements)).length ≤ (Document.messages bound elements).length := by
  have messages : (Document.messages bound elements).length =
      (elements.flatMap (Document.elementDefects bound)).length := by
    rw [Document.messages]
    refine (length_flatMap_zipIdx ?_).trans List.length_flatMap.symm
    intro element position
    exact List.length_map _
  rw [errors, List.length_map, (documentViolations_perm _).length_eq, document, violations_array,
    messages]
  apply items_violations_le
  intro element mem
  have inside := Json.nesting_lt_of_mem mem
  exact element_violations_le (Json.hasDistinctKeys_arr.mp distinct element mem) (by omega)

/-! ## Places in a document -/

/-- What is listed at a field of an element, or below it, is what the schema of the field finds. -/
theorem placesFrom_field {elements : List Json} {position : Nat} {members : Members}
    (found : elements[position]? = some (.obj members)) {name : Text} {spec : FieldSpec}
    (field : (name, spec) ∈ mainFields) (place : List PathStep) :
    (placesFrom (.index position :: .key name :: place) (documentViolations (.arr elements))).Perm
      (placesFrom place ((members.get? name).elim []
        (violations (resolverFor define (.arr elements)) (mainField spec)))) := by
  have unsorted := placesFrom_perm (documentViolations_perm (.arr elements))
    (.index position :: .key name :: place)
  rw [placesFrom_cons _ _ (violations _ _ _), inPart_document found,
    placesFrom_cons _ _ (violations _ _ _), inPart_ruleSet field] at unsorted
  exact unsorted

/-- At the rule of an element stand the violations of the rule. -/
theorem placesFrom_rule_perm {elements : List Json} {position : Nat} {members : Members}
    (found : elements[position]? = some (.obj members)) :
    (placesFrom [.index position, .key "rule"] (documentViolations (.arr elements))).Perm
      (((members.get? "rule").elim []
        (violations (resolverFor define (.arr elements)) [.ref .rule])).map Violation.path) := by
  have field : mainFields.lookup ("rule" : Text) =
      some { required := true, kinds := [.object], check := .ruleTree } := rfl
  rw [← placesFrom_nil]
  exact placesFrom_field found (mem_of_lookup field) []

/-- A rule is reported once at most, and nothing is reported below it. -/
theorem placesFrom_rule {elements : List Json} {position : Nat} {members : Members}
    (found : elements[position]? = some (.obj members)) :
    ∃ times ≤ 1, placesFrom [.index position, .key "rule"] (documentViolations (.arr elements)) =
      List.replicate times [] := by
  have listed := placesFrom_rule_perm found
  cases held : members.get? "rule" with
  | none =>
    rw [held] at listed
    exact ⟨0, Nat.zero_le 1, listed.eq_nil⟩
  | some v =>
    rw [held, Option.elim_some, resolverFor, rule_violations_eq] at listed
    generalize (resolver define _).accepts .rule v = accepted at listed
    cases accepted with
    | true => exact ⟨0, Nat.zero_le 1, listed.eq_nil⟩
    | false => exact ⟨1, Nat.le_refl 1, List.perm_singleton.mp listed⟩

/-- A tree within a bound is reported exactly if the walk over it finds a defect. -/
theorem placesFrom_rule_eq_nil {elements : List Json} {position : Nat} {members node : Members}
    (found : elements[position]? = some (.obj members))
    (held : members.get? "rule" = some (.obj node)) (within : bound.Admits (RuleTree.deepest 1 node)) :
    placesFrom [.index position, .key "rule"] (documentViolations (.arr elements)) = [] ↔
      RuleTree.defects bound (.obj node) = [] := by
  have listed := placesFrom_rule_perm found
  rw [held, Option.elim_some] at listed
  have element := Json.nesting_lt_of_mem (List.mem_of_getElem? found)
  have rule := Json.nesting_lt_of_get? held
  have enough : (Json.obj node).nesting ≤ (Json.arr elements).nesting := by omega
  have admitted (other : Members) (same : Json.obj node = .obj other) :
      bound.Admits (RuleTree.deepest 1 other) := by
    cases same
    exact within
  have conforms := (rule_violations_eq_nil enough admitted).trans
    Document.ruleTree_defects_eq_nil.symm
  rw [← conforms]
  constructor
  · intro none
    rw [none] at listed
    exact List.map_eq_nil_iff.mp listed.nil_eq.symm
  · intro none
    rw [resolverFor, none] at listed
    exact listed.eq_nil

/-- An action is reported at the places that its defects tell. -/
theorem placesFrom_action {elements : List Json}
    (distinct : (Json.arr elements).hasDistinctKeys = true) {position : Nat} {members : Members}
    (found : elements[position]? = some (.obj members)) {items : List Json}
    (held : members.get? "actions" = some (.arr items)) {place : Nat} {item : Json}
    (listed : items[place]? = some item) :
    (placesFrom [.index position, .key "actions", .index place]
      (documentViolations (.arr elements))).Perm (actionPlaces item) := by
  have field : mainFields.lookup ("actions" : Text) =
      some { kinds := [.array], check := .actions } := rfl
  have element := Json.hasDistinctKeys_arr.mp distinct _ (List.mem_of_getElem? found)
  have actions := (Json.hasDistinctKeys_obj.mp element).2 _ _ (Members.mem_of_get? held)
  have keys := Json.hasDistinctKeys_arr.mp actions item (List.mem_of_getElem? listed)
  have places := placesFrom_field found (mem_of_lookup field) [.index place]
  rw [held, Option.elim_some, placesFrom_cons _ _ (violations _ _ _), mainField,
    inPart_actions listed, placesFrom_nil] at places
  exact places.trans (action_places_perm keys)

/-- A report against the exported schema, told from the report of the validator. It lists for each
element what the schema of a rule set finds there, no more and no less, only in another order. A rule
is reported once at most and at the rule itself; one that lies within a bound is reported exactly if
its tree has a defect under that bound. An action is reported at each key whose value is of a wrong
kind and, if it has unknown keys, once for them at the action. So there are at most as many messages
as the validator has, under whatever bound. -/
theorem messages_against_defects {elements : List Json}
    (distinct : (Json.arr elements).hasDistinctKeys = true) :
    let reported := documentViolations (.arr elements)
    let found := violations (resolverFor define (.arr elements)) ruleSet
    errors (.arr elements) = reported.map Violation.message ∧
    reported.Perm (elements.zipIdx.flatMap fun (element, position) =>
      (found element).map (Violation.below (.index position))) ∧
    (∀ position element, elements[position]? = some element →
      (inPart (.index position) reported).Perm (found element)) ∧
    (∀ position (members : Members), elements[position]? = some (.obj members) →
      let atRule := placesFrom [.index position, .key "rule"] reported
      (atRule.length ≤ 1 ∧ (∀ rest ∈ atRule, rest = []) ∧
        ∀ node bound, members.get? "rule" = some (.obj node) →
          bound.Admits (RuleTree.deepest 1 node) →
          (atRule = [] ↔ RuleTree.defects bound (.obj node) = [])) ∧
      ∀ items, members.get? "actions" = some (.arr items) →
        ∀ place action, items[place]? = some action →
          let atAction := placesFrom [.index position, .key "actions", .index place] reported
          let defects := actionDefects action
          atAction.Perm (actionPlaces action) ∧
          atAction.length = (wrongKinds defects).length + (defects.any isUnknownKey).toNat) ∧
    ∀ bound, (errors (.arr elements)).length ≤ (Document.messages bound elements).length := by
  have unsorted := documentViolations_perm (.arr elements)
  refine ⟨rfl, ?_, ?_, ?_, fun bound => errors_length_le distinct⟩
  · rwa [violations_document] at unsorted
  -- Only the order of the report is sorted, so its part below a place has the same violations.
  · intro position element found
    rw [← inPart_document found]
    exact unsorted.filterMap _
  · intro position members found
    constructor
    · obtain ⟨times, at_most, same⟩ := placesFrom_rule found
      refine ⟨?_, ?_, fun node bound held within => placesFrom_rule_eq_nil found held within⟩
      · rw [same]
        exact List.length_replicate.trans_le at_most
      · rw [same]
        exact fun rest => List.eq_of_mem_replicate
    · intro items held place action listed
      have places := placesFrom_action distinct found held listed
      exact ⟨places, places.length_eq.trans (length_actionPlaces action)⟩

/-- A junction of two values that are no rules is one message for two, an action with one value of a
wrong kind and two unknown keys is two messages for three. -/
theorem messages_against_five_defects :
    let action : Json := .obj [("args", .str "all"), ("first", .null), ("second", .null)]
    let element : Json :=
      .obj [("actions", .arr [action]), ("rule", .obj [("or", .arr [.int 1, .int 2])])]
    let reported := documentViolations (.arr [element])
    (Json.arr [element]).hasDistinctKeys = true ∧
      (placesFrom [.index 0, .key "rule"] reported).length ≤ 1 ∧
      placesFrom [.index 0, .key "rule"] reported ≠ [] ∧
      (placesFrom [.index 0, .key "actions", .index 0] reported).Perm [[.key "args"], []] ∧
      (errors (.arr [element])).length ≤ 5 := by
  intro action element reported
  have distinct : (Json.arr [element]).hasDistinctKeys = true := by decide
  obtain ⟨-, -, -, elementwise, fewer⟩ := messages_against_defects distinct
  obtain ⟨⟨once, -, silent⟩, actions⟩ := elementwise 0 _ rfl
  have reported_rule := silent [("or", .arr [.int 1, .int 2])] (.integer 1) rfl
    (by decide +kernel)
  have five : (Document.messages (.integer 1) [element]).length = 5 := by decide +kernel
  refine ⟨distinct, once, mt reported_rule.mp (by decide +kernel), ?_,
    (fewer (.integer 1)).trans_eq five⟩
  exact (actions [action] rfl 0 action rfl).1

end Rulebook.Schema
