import Rulebook.Schema.Export
import Rulebook.Proofs.Document.Grammar

/-!
# What the exported schema accepts

The exported schema read back into the grammar. A leaf is accepted exactly if it is a well-formed
leaf without combination fields: the clauses on additional fields are one for each condition, and
only the one for the leaf's own condition applies. A combination is accepted exactly if it has a
combination field and what its fields hold is accepted as rules. Where references are followed often
enough for the nesting of a value, a rule is accepted exactly if it is well formed under a bound that
its tree is within.
-/

set_option autoImplicit false

namespace Rulebook.Schema

open Document (branchNames junctionNames WellFormedLeaf WellFormedRule)

variable {r : Resolver}

/-! ## Keywords -/

/-- A schema is accepted if each of its keywords is. -/
theorem acceptsAll_cons {keyword : Keyword} {rest : Schema} {v : Json} :
    acceptsAll r (keyword :: rest) v = true ↔
      acceptsKeyword r keyword v = true ∧ acceptsAll r rest v = true :=
  Bool.and_eq_true_iff

/-- No keyword refuses anything. -/
theorem acceptsAll_nil {v : Json} : acceptsAll r [] v = true := rfl

/-- A schema of one keyword accepts what the keyword accepts. -/
theorem acceptsAll_singleton {keyword : Keyword} {v : Json} :
    acceptsAll r [keyword] v = true ↔ acceptsKeyword r keyword v = true := by
  rw [acceptsAll_cons, and_iff_left acceptsAll_nil]

/-- A value is accepted by each of several schemas. -/
theorem acceptsEach_iff {schemas : List Schema} {v : Json} :
    acceptsEach r schemas v = true ↔ ∀ schema ∈ schemas, acceptsAll r schema v = true := by
  induction schemas with
  | nil => simp [acceptsEach]
  | cons schema rest ih => simp [acceptsEach, ih]

/-- A value is accepted by some of several schemas. -/
theorem acceptsSome_iff {schemas : List Schema} {v : Json} :
    acceptsSome r schemas v = true ↔ ∃ schema ∈ schemas, acceptsAll r schema v = true := by
  induction schemas with
  | nil => simp [acceptsSome]
  | cons schema rest ih => simp [acceptsSome, ih]

/-- Properties accept an object if the value of each of them is accepted where it is there. -/
theorem acceptsProperties_iff {schemas : List (Text × Schema)} {object : Members} :
    acceptsProperties r schemas object = true ↔
      ∀ entry ∈ schemas, ∀ v, object.get? entry.1 = some v → acceptsAll r entry.2 v = true := by
  induction schemas with
  | nil => simp [acceptsProperties]
  | cons entry rest ih =>
    obtain ⟨name, schema⟩ := entry
    rw [acceptsProperties, Bool.and_eq_true, ih, List.forall_mem_cons]
    refine and_congr_left fun _ => ?_
    cases object.get? name <;> simp

section Keywords

variable {schema condition consequence : Schema} {schemas : List Schema} {v : Json}
  {object : Members}

/-- The keyword `type` accepts the values of its kinds. -/
theorem acceptsKeyword_type {kinds : List Kind} :
    acceptsKeyword r (.type kinds) v = true ↔ v.kind ∈ kinds :=
  List.contains_iff_mem

/-- The keyword `enum` accepts its texts. -/
theorem acceptsKeyword_enum {texts : List Text} :
    acceptsKeyword r (.enum texts) v = true ↔ ∃ t, v = .str t ∧ t ∈ texts := by
  cases v with
  | str t =>
    have listed : acceptsKeyword r (.enum texts) (.str t) = texts.contains t := rfl
    simp [listed]
  | _ =>
    constructor
    · exact fun impossible => nomatch impossible
    · rintro ⟨_, impossible, -⟩
      cases impossible

/-- The keyword `const` accepts its text. -/
theorem acceptsKeyword_const {text : Text} :
    acceptsKeyword r (.const text) v = true ↔ v = .str text :=
  decide_eq_true_iff

/-- The keyword `required` accepts objects that have its names. -/
theorem acceptsKeyword_required {names : List Text} :
    acceptsKeyword r (.required names) (.obj object) = true ↔
      ∀ name ∈ names, object.has name = true :=
  List.all_eq_true

/-- Properties that do not exclude other keys are accepted if each of them is, as far as it is
there. -/
theorem acceptsKeyword_properties {properties : List (Text × Schema)} :
    acceptsKeyword r (.properties properties false) (.obj object) = true ↔
      ∀ entry ∈ properties, ∀ v, object.get? entry.1 = some v → acceptsAll r entry.2 v = true := by
  have opened : acceptsKeyword r (.properties properties false) (.obj object) =
      (acceptsProperties r properties object && true) := rfl
  rw [opened, Bool.and_true, acceptsProperties_iff]

/-- The keyword `items` accepts arrays whose items are accepted. -/
theorem acceptsKeyword_items {items : List Json} :
    acceptsKeyword r (.items schema) (.arr items) = true ↔
      ∀ item ∈ items, acceptsAll r schema item = true :=
  List.all_eq_true

/-- The keyword `anyOf` accepts what one of its schemas accepts. -/
theorem acceptsKeyword_anyOf :
    acceptsKeyword r (.anyOf schemas) v = true ↔ ∃ schema ∈ schemas, acceptsAll r schema v = true :=
  acceptsSome_iff

/-- The keyword `allOf` accepts what all of its schemas accept. -/
theorem acceptsKeyword_allOf :
    acceptsKeyword r (.allOf schemas) v = true ↔ ∀ schema ∈ schemas, acceptsAll r schema v = true :=
  acceptsEach_iff

/-- The keyword `not` accepts what its schema refuses. -/
theorem acceptsKeyword_not :
    acceptsKeyword r (.not schema) v = true ↔ ¬ acceptsAll r schema v = true := by
  have negated : acceptsKeyword r (.not schema) v = !acceptsAll r schema v := rfl
  rw [negated, Bool.not_eq_true', Bool.not_eq_true]

/-- The keywords `if` and `then` accept what meets the consequence if it meets the condition. -/
theorem acceptsKeyword_ifThen :
    acceptsKeyword r (.ifThen condition consequence) v = true ↔
      (acceptsAll r condition v = true → acceptsAll r consequence v = true) := by
  have either : acceptsKeyword r (.ifThen condition consequence) v =
      (!acceptsAll r condition v || acceptsAll r consequence v) := rfl
  rw [either]
  cases acceptsAll r condition v <;> simp

/-- The keyword `$ref` accepts what the schema it refers to accepts. -/
theorem acceptsKeyword_ref {target : Definition} :
    acceptsKeyword r (.ref target) v = true ↔ r.accepts target v = true :=
  Iff.rfl

end Keywords

/-- The schema for the kinds of a field accepts values of these kinds. -/
theorem acceptsAll_kindSchema {spec : FieldSpec} {v : Json} :
    acceptsAll r (kindSchema spec) v = true ↔ v.kind ∈ spec.kinds := by
  rw [kindSchema, acceptsAll_singleton, acceptsKeyword_type]

/-- The schemas that demand a combination field each accept an object if it has one of the fields. -/
theorem acceptsAll_combinationDemands {node : Members} :
    acceptsAll r [.anyOf combinationDemands] (.obj node) = true ↔
      ∃ name ∈ branchNames ++ junctionNames, node.has name = true := by
  simp [acceptsAll_singleton, acceptsKeyword_anyOf, acceptsKeyword_required, combinationDemands,
    combinationFields, branchNames, junctionNames]

/-! ## Leaves -/

/-- A condition is listed with its fields exactly if it is registered with them. -/
theorem mem_conditions {condition : Text} {fields : List Text} :
    (condition, fields) ∈ conditions ↔ additionalFieldsOf? condition = some fields := by
  have distinct : (conditions.map Prod.fst).Nodup := by decide +kernel
  exact ⟨lookup_of_mem distinct, mem_of_lookup⟩

/-- The clause for a condition binds a leaf of that condition to the fields that the condition calls
for, and no other leaf to anything. -/
theorem acceptsAll_requirement {condition : Text} {fields : List Text} {node : Members} :
    acceptsAll r (requirement condition fields) (.obj node) = true ↔
      (node.get? "condition" = some (.str condition) → ∀ field ∈ fields,
        ∃ value, node.get? field = some value ∧ value.kind ∈ (additionalSpec field).kinds) := by
  have applies : acceptsAll r
      [.properties [("condition", [.const condition])] false, .required ["condition"]]
      (.obj node) = true ↔ node.get? "condition" = some (.str condition) := by
    rw [acceptsAll_cons, acceptsAll_singleton, acceptsKeyword_properties, acceptsKeyword_required]
    simp only [List.forall_mem_singleton, acceptsAll_singleton, acceptsKeyword_const,
      Members.has_iff]
    cases node.get? "condition" <;> simp
  have demands : acceptsAll r
      [.required fields,
        .properties (fields.map fun name => (name, kindSchema (additionalSpec name))) false]
      (.obj node) = true ↔ ∀ field ∈ fields,
        ∃ value, node.get? field = some value ∧ value.kind ∈ (additionalSpec field).kinds := by
    rw [acceptsAll_cons, acceptsAll_singleton, acceptsKeyword_required, acceptsKeyword_properties]
    simp only [List.forall_mem_map, acceptsAll_kindSchema]
    constructor
    · rintro ⟨present, kinds⟩ field mem
      obtain ⟨value, found⟩ := Members.has_iff.mp (present field mem)
      exact ⟨value, found, kinds field mem value found⟩
    · intro h
      refine ⟨fun field mem => ?_, fun field mem value found => ?_⟩
      · obtain ⟨value, found, -⟩ := h field mem
        exact Members.has_iff.mpr ⟨value, found⟩
      · obtain ⟨_, found', kind⟩ := h field mem
        cases found.symm.trans found'
        exact kind
  rw [requirement, acceptsAll_singleton, acceptsKeyword_ifThen, applies, demands]

/-- All clauses on conditions together bind a leaf of a registered condition to the fields that its
condition calls for. -/
theorem acceptsKeyword_requirements {condition : Text} {fields : List Text} {node : Members}
    (found : node.get? "condition" = some (.str condition))
    (registered : additionalFieldsOf? condition = some fields) :
    acceptsKeyword r (.allOf requirements) (.obj node) = true ↔ ∀ field ∈ fields,
      ∃ value, node.get? field = some value ∧ value.kind ∈ (additionalSpec field).kinds := by
  simp only [acceptsKeyword_allOf, requirements, List.forall_mem_map, acceptsAll_requirement]
  constructor
  · intro h field mem
    have nonempty : (!fields.isEmpty) = true := by
      cases fields with
      | nil => cases mem
      | cons => rfl
    have entry := mem_conditions.mpr registered
    exact h (condition, fields) (List.mem_filter.mpr ⟨entry, nonempty⟩) found field mem
  · rintro h ⟨other, others⟩ listed same field mem
    have entry := mem_conditions.mp (List.mem_filter.mp listed).1
    cases found.symm.trans same
    cases registered.symm.trans entry
    exact h field mem

/-- The fields of a leaf are accepted if the condition is a registered one and the property is a
text, each as far as it is there. -/
theorem acceptsKeyword_leafFields {node : Members} :
    acceptsKeyword r (.properties (ruleFields.map fun (name, spec) => (name, leafField spec)) false)
      (.obj node) = true ↔
      (∀ value, node.get? "condition" = some value → ∃ condition, value = .str condition ∧
        condition ∈ conditions.map Prod.fst) ∧
      (∀ value, node.get? "property" = some value → ∃ name, value = .str name) := by
  have listed (value : Json) :
      acceptsAll r [.type [.string], .enum (conditions.map Prod.fst)] value = true ↔
        ∃ condition, value = .str condition ∧ condition ∈ conditions.map Prod.fst := by
    rw [acceptsAll_cons, acceptsAll_singleton, acceptsKeyword_type, acceptsKeyword_enum]
    cases value <;> simp [Json.kind]
  have text (value : Json) : acceptsAll r [.type [.string]] value = true ↔
      ∃ name, value = .str name := by
    rw [acceptsAll_singleton, acceptsKeyword_type, List.mem_singleton, Json.kind_eq_string]
  simp only [acceptsKeyword_properties, ruleFields, List.map_cons, List.map_nil,
    List.forall_mem_cons, leafField, kindSchema, List.cons_append, List.nil_append, if_true,
    listed, reduceCtorEq, if_false, text, List.not_mem_nil, false_implies, implies_true, and_true]

/-- An object is accepted as a leaf exactly if it is a well-formed leaf and no combination. -/
theorem acceptsAll_leaf {node : Members} :
    acceptsAll r leaf (.obj node) = true ↔
      (∀ name ∈ branchNames ++ junctionNames, node.has name = false) ∧ WellFormedLeaf node := by
  have single : acceptsKeyword r (.not [.anyOf combinationDemands]) (.obj node) = true ↔
      ∀ name ∈ branchNames ++ junctionNames, node.has name = false := by
    rw [acceptsKeyword_not, acceptsAll_combinationDemands]
    simp
  have required : acceptsKeyword r (.required (requiredNames ruleFields)) (.obj node) = true ↔
      (∃ value, node.get? "condition" = some value) ∧
        ∃ value, node.get? "property" = some value := by
    rw [← Members.has_iff, ← Members.has_iff]
    simp [acceptsKeyword_required, requiredNames, ruleFields]
  rw [leaf, acceptsAll_cons, acceptsAll_cons, acceptsAll_cons, acceptsAll_cons, acceptsAll_singleton,
    acceptsKeyword_type, single, required, acceptsKeyword_leafFields]
  constructor
  · rintro ⟨-, ⟨⟨condition, found⟩, ⟨property, found'⟩⟩, ⟨listed, text⟩, single, each⟩
    obtain ⟨condition, rfl, mem⟩ := listed _ found
    obtain ⟨⟨_, fields⟩, entry, rfl⟩ := List.mem_map.mp mem
    obtain ⟨name, rfl⟩ := text _ found'
    have registered := mem_conditions.mp entry
    have fields_present := (acceptsKeyword_requirements found registered).mp each
    exact ⟨single, ⟨_, fields, found, registered, fields_present⟩, name, found'⟩
  · rintro ⟨single, ⟨condition, fields, found, registered, fields_present⟩, name, found'⟩
    have mem : condition ∈ conditions.map Prod.fst :=
      List.mem_map.mpr ⟨_, mem_conditions.mpr registered, rfl⟩
    refine ⟨List.mem_singleton.mpr rfl, ⟨⟨_, found⟩, ⟨_, found'⟩⟩, ⟨?_, ?_⟩, single, ?_⟩
    · rintro _ same
      cases found.symm.trans same
      exact ⟨condition, rfl, mem⟩
    · rintro _ same
      cases found'.symm.trans same
      exact ⟨name, rfl⟩
    · exact (acceptsKeyword_requirements found registered).mpr fields_present

/-! ## Rules -/

/-- The combination fields are accepted if the branches are accepted as rules and the junctions are
arrays of what is accepted as rules, each as far as it is there. -/
theorem acceptsKeyword_combinationFields {node : Members} :
    acceptsKeyword r
      (.properties (combinationFields.map fun (name, spec) => (name, combinationField spec)) false)
      (.obj node) = true ↔
      (∀ name ∈ branchNames, ∀ value, node.get? name = some value → r.accepts .rule value = true) ∧
      (∀ name ∈ junctionNames, ∀ value, node.get? name = some value → ∃ items, value = .arr items ∧
        ∀ item ∈ items, r.accepts .rule item = true) := by
  have branch (value : Json) : acceptsAll r [.ref .rule] value = true ↔
      r.accepts .rule value = true := by
    rw [acceptsAll_singleton, acceptsKeyword_ref]
  have junction (value : Json) : acceptsAll r [.type [.array], .items [.ref .rule]] value = true ↔
      ∃ items, value = .arr items ∧ ∀ item ∈ items, r.accepts .rule item = true := by
    rw [acceptsAll_cons, acceptsAll_singleton, acceptsKeyword_type]
    cases value with
    | arr items => simp [acceptsKeyword_items, Json.kind, branch]
    | _ => simp [Json.kind]
  have object : ([Kind.object].contains .array) = false := by decide
  have array : ([Kind.array].contains .array) = true := by decide
  simp only [acceptsKeyword_properties, combinationFields, List.map_cons, List.map_nil,
    List.forall_mem_cons, combinationField, object, array, Bool.false_eq_true, if_true, if_false,
    branch, junction, branchNames, junctionNames, List.not_mem_nil, false_implies, implies_true,
    and_true, and_assoc]

/-- An object is accepted as a combination exactly if it has a combination field, its branches are
accepted as rules, and its junctions are arrays of what is accepted as rules. -/
theorem acceptsAll_combination {node : Members} :
    acceptsAll r combination (.obj node) = true ↔
      (∃ name ∈ branchNames ++ junctionNames, node.has name = true) ∧
      (∀ name ∈ branchNames, ∀ value, node.get? name = some value → r.accepts .rule value = true) ∧
      (∀ name ∈ junctionNames, ∀ value, node.get? name = some value → ∃ items, value = .arr items ∧
        ∀ item ∈ items, r.accepts .rule item = true) := by
  rw [combination, acceptsAll_cons, acceptsAll_cons, acceptsKeyword_type,
    acceptsKeyword_combinationFields, acceptsAll_combinationDemands]
  simp only [Json.kind, List.mem_singleton, true_and]
  exact and_comm

/-- Where references are followed once more than for its parts, a rule is accepted exactly if it is
accepted as a combination or as a leaf. -/
theorem accepts_rule {levels : Nat} {v : Json} :
    (resolver define (levels + 2)).accepts .rule v = true ↔
      acceptsAll (resolver define (levels + 1)) combination v = true ∨
        acceptsAll (resolver define levels) leaf v = true := by
  have condition : acceptsAll (resolver define (levels + 1)) [.ref .condition] v = true ↔
      acceptsAll (resolver define levels) leaf v = true := by
    rw [acceptsAll_singleton, acceptsKeyword_ref]
    rfl
  have rule : (resolver define (levels + 2)).accepts .rule v =
      acceptsAll (resolver define (levels + 1)) [.anyOf [combination, [.ref .condition]]] v := rfl
  rw [rule, acceptsAll_singleton, acceptsKeyword_anyOf]
  simp only [List.mem_cons, List.not_mem_nil, or_false, exists_eq_or_imp, exists_eq_left, condition]

/-- What is accepted as a rule is an object. -/
theorem exists_node_of_accepts_rule {levels : Nat} {v : Json}
    (h : (resolver define (levels + 2)).accepts .rule v = true) : ∃ node, v = .obj node := by
  apply Json.kind_eq_object.mp
  rcases accepts_rule.mp h with h | h
  · exact List.mem_singleton.mp (acceptsKeyword_type.mp (acceptsAll_cons.mp h).1)
  · exact List.mem_singleton.mp (acceptsKeyword_type.mp (acceptsAll_cons.mp h).1)

/-- Where references are followed more often than an object nests, it is accepted as a rule exactly if
it is a well-formed rule under a bound that admits the rules in it. -/
theorem accepts_rule_node {bound : DepthBound} {depth levels : Nat} {node : Members}
    (enough : (Json.obj node).nesting ≤ levels)
    (within : bound.Admits (RuleTree.deepest depth node)) :
    (resolver define (levels + 2)).accepts .rule (.obj node) = true ↔
      WellFormedRule bound depth (.obj node) := by
  induction node using RuleTree.node_induction generalizing depth levels with
  | step node ih =>
    obtain ⟨root, below⟩ := RuleTree.admits_deepest.mp within
    obtain ⟨inner, rfl⟩ : ∃ inner, levels = inner + 1 := by
      have : 1 ≤ (Json.obj node).nesting := by
        rw [Json.nesting]
        omega
      exact ⟨levels - 1, by omega⟩
    -- What a combination field holds is accepted one level further down, or is no object at all.
    have part (value : Json) (nests : value.nesting ≤ inner)
        (combined : ∀ child, value = .obj child → child ∈ RuleTree.children node) :
        (resolver define (inner + 2)).accepts .rule value = true ↔
          WellFormedRule bound (depth + 1) value := by
      by_cases object : ∃ child, value = .obj child
      · obtain ⟨child, rfl⟩ := object
        exact ih child (combined child rfl) nests (below child (combined child rfl))
      · exact ⟨fun h => absurd (exists_node_of_accepts_rule h) object,
          fun h => absurd h.exists_node object⟩
    have branch {name : Text} (mem : name ∈ branchNames) {value : Json}
        (found : node.get? name = some value) :
        (resolver define (inner + 2)).accepts .rule value = true ↔
          WellFormedRule bound (depth + 1) value := by
      have := Json.nesting_lt_of_get? found
      refine part value (by omega) ?_
      rintro child rfl
      exact Document.mem_children_of_branch mem found
    have junction {name : Text} (mem : name ∈ junctionNames) {items : List Json}
        (found : node.get? name = some (.arr items)) {item : Json} (held : item ∈ items) :
        (resolver define (inner + 2)).accepts .rule item = true ↔
          WellFormedRule bound (depth + 1) item := by
      have := Json.nesting_lt_of_get? found
      have := Json.nesting_lt_of_mem held
      refine part item (by omega) ?_
      rintro child rfl
      exact Document.mem_children_of_junction mem found held
    rw [accepts_rule, acceptsAll_combination, acceptsAll_leaf]
    constructor
    · rintro (⟨combines, branches, junctions⟩ | ⟨single, leaf⟩)
      · refine .combination root combines ?_ ?_ ?_
        · intro name mem value found
          exact (branch mem found).mp (branches name mem value found)
        · intro name mem value found
          obtain ⟨items, rfl, -⟩ := junctions name mem value found
          exact ⟨items, rfl⟩
        · intro name mem items found item held
          obtain ⟨_, same, accepted⟩ := junctions name mem _ found
          cases same
          exact (junction mem found held).mp (accepted item held)
      · exact .leaf root single leaf
    · intro h
      cases h with
      | leaf _ single leaf => exact Or.inr ⟨single, leaf⟩
      | combination _ combines branches arrays joined =>
        refine Or.inl ⟨combines, ?_, ?_⟩
        · intro name mem value found
          exact (branch mem found).mpr (branches name mem value found)
        · intro name mem value found
          obtain ⟨items, rfl⟩ := arrays name mem value found
          exact ⟨items, rfl, fun item held =>
            (junction mem found held).mpr (joined name mem items found item held)⟩

end Rulebook.Schema
