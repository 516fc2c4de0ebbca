import Rulebook.Document
import Rulebook.Proofs.RuleTree.Walk

/-!
# The grammar of rule set documents

What a well-formed rule set is, said without checks and their order: which fields there are, of which
kind each is, and how deep a rule may lie. A rule is well formed at a depth that the bound admits if
it combines well-formed rules one level further down or is a well-formed leaf. The registered
conditions, the fields they call for and the kinds declared for a field are read from the tables.

Each part of the grammar comes with the equivalence that its check finds no defect, up to
`elementDefects_eq_nil` for an element of a document. For rules it rests on the recursion, which the
walk agrees with, by induction on the rule.
-/

set_option autoImplicit false

namespace Rulebook

/-! ## Kinds -/

namespace Json

/-- The values of the kind string are the texts. -/
theorem kind_eq_string {v : Json} : v.kind = .string ↔ ∃ t, v = .str t := by
  cases v <;> simp [kind]

/-- The values of the kind array are the arrays. -/
theorem kind_eq_array {v : Json} : v.kind = .array ↔ ∃ items, v = .arr items := by
  cases v <;> simp [kind]

/-- The values of the kind object are the objects. -/
theorem kind_eq_object {v : Json} : v.kind = .object ↔ ∃ members, v = .obj members := by
  cases v <;> simp [kind]

end Json

/-! ## Tables -/

/-- No field of an action is declared twice. -/
theorem nodup_actionFields : (actionFields.map Prod.fst).Nodup := by decide

/-- A field of an action takes some kind of value. -/
theorem kinds_of_actionField {name : Text} {spec : FieldSpec} (field : (name, spec) ∈ actionFields) :
    spec.kinds ≠ [] := by
  have all : ∀ entry ∈ actionFields, entry.2.kinds ≠ [] := by decide
  exact all _ field

/-- The kinds of a field of a rule set are declared, and they are those that its nested check is made
for. -/
theorem declared_of_mainField {name : Text} {spec : FieldSpec} (field : (name, spec) ∈ mainFields) :
    spec.kinds ≠ [] ∧ spec.check ≠ .condition ∧ (spec.check = .ruleTree → spec.kinds = [.object]) ∧
      (spec.check = .actions → spec.kinds = [.array]) := by
  have all : ∀ entry ∈ mainFields, entry.2.kinds ≠ [] ∧ entry.2.check ≠ .condition ∧
      (entry.2.check = .ruleTree → entry.2.kinds = [.object]) ∧
      (entry.2.check = .actions → entry.2.kinds = [.array]) := by decide
  exact all _ field

/-! ## One field -/

/-- A value of no declared kind has one defect, of its kind. -/
theorem kindDefects_of_misfit {field : Text} {expected : List Kind} {actual : Kind}
    (declared : expected ≠ []) (misfit : actual ∉ expected) :
    kindDefects field expected actual = [.wrongKind field expected actual] :=
  if_neg (not_or.mpr ⟨declared, misfit⟩)

/-- A value that is no object has one defect where an object is expected. -/
theorem kindDefects_of_noObject {field : Text} {actual : Kind} (no_object : actual ≠ .object) :
    kindDefects field [.object] actual = [.wrongKind field [.object] actual] := by
  apply kindDefects_of_misfit (List.cons_ne_nil _ _)
  intro object
  exact no_object (List.mem_singleton.mp object)

section Field

variable {nested : NestedCheck → Json → List Defect} {name : Text} {spec : FieldSpec}
  {container : Members} {value : Json}

/-- A required field that is absent has one defect, of its absence. -/
theorem fieldDefects_of_absent (absent : container.get? name = none)
    (required : spec.required = true) :
    fieldDefects nested name spec container = [.missingField name] := by
  simp [fieldDefects, absent, required]

/-- A field with a value of no declared kind has one defect, of the kind. -/
theorem fieldDefects_of_misfit (found : container.get? name = some value) (declared : spec.kinds ≠ [])
    (misfit : value.kind ∉ spec.kinds) :
    fieldDefects nested name spec container = [.wrongKind name spec.kinds value.kind] := by
  simp [fieldDefects, found, kindDefects_of_misfit declared misfit]

/-- A field with a value of a declared kind has the defects of the value. -/
theorem fieldDefects_of_fit (found : container.get? name = some value)
    (fits : value.kind ∈ spec.kinds) :
    fieldDefects nested name spec container = nested spec.check value := by
  have no_defect : kindDefects name spec.kinds value.kind = [] :=
    kindDefects_eq_nil.mpr (Or.inr fits)
  simp [fieldDefects, found, no_defect]

end Field

namespace Document

/-! ## The grammar -/

/-- The fields that hold one rule each. -/
def branchNames : List Text := ["if", "then"]

/-- The fields that hold a list of rules each. -/
def junctionNames : List Text := ["and", "or"]

/-- A leaf of a rule tree that keeps to the grammar: its condition is registered, its property is a
text, and the fields that the condition calls for are there with values of their kinds. -/
structure WellFormedLeaf (node : Members) : Prop where
  condition : ∃ name fields, node.get? "condition" = some (.str name) ∧
    additionalFieldsOf? name = some fields ∧
    ∀ field ∈ fields, ∃ value, node.get? field = some value ∧
      value.kind ∈ (additionalSpec field).kinds
  property : ∃ name, node.get? "property" = some (.str name)

/-- A rule that keeps to the grammar at a depth. -/
inductive WellFormedRule (bound : DepthBound) : Nat → Json → Prop where
  /-- A rule with at least one combination field, each of which holds well-formed rules. -/
  | combination {depth : Nat} {node : Members}
      (within : bound.Admits depth)
      (combines : ∃ name ∈ branchNames ++ junctionNames, node.has name = true)
      (branch : ∀ name ∈ branchNames, ∀ value, node.get? name = some value →
        WellFormedRule bound (depth + 1) value)
      (junction : ∀ name ∈ junctionNames, ∀ value, node.get? name = some value →
        ∃ items, value = .arr items)
      (joined : ∀ name ∈ junctionNames, ∀ items, node.get? name = some (.arr items) →
        ∀ item ∈ items, WellFormedRule bound (depth + 1) item) :
      WellFormedRule bound depth (.obj node)
  /-- A rule with no combination field that is a well-formed leaf. -/
  | leaf {depth : Nat} {node : Members}
      (within : bound.Admits depth)
      (single : ∀ name ∈ branchNames ++ junctionNames, node.has name = false)
      (leaf : WellFormedLeaf node) :
      WellFormedRule bound depth (.obj node)

/-- An action that keeps to the grammar: an object whose keys are all action fields, with values of
their kinds. -/
def WellFormedAction (action : Json) : Prop :=
  ∃ members, action = .obj members ∧ ∀ key value, (key, value) ∈ members →
    ∃ spec, actionFields.lookup key = some spec ∧ value.kind ∈ spec.kinds

/-- A rule set that keeps to the grammar. Other fields than these do not count. -/
structure WellFormedRuleSet (bound : DepthBound) (ruleSet : Members) : Prop where
  id : ∀ value, ruleSet.get? "id" = some value → ∃ t, value = .str t
  description : ∀ value, ruleSet.get? "description" = some value → ∃ t, value = .str t
  rule : ∃ rule, ruleSet.get? "rule" = some rule ∧ WellFormedRule bound 1 rule
  actions : ∀ value, ruleSet.get? "actions" = some value →
    ∃ items, value = .arr items ∧ ∀ action ∈ items, WellFormedAction action

/-- An element of a document that keeps to the grammar: a well-formed rule set. -/
def WellFormed (bound : DepthBound) (element : Json) : Prop :=
  ∃ ruleSet, element = .obj ruleSet ∧ WellFormedRuleSet bound ruleSet

/-! ## Wider bounds -/

/-- A rule that keeps to the grammar under a bound does so under every wider one. -/
theorem WellFormedRule.mono {bound wider : DepthBound} (le : bound.AtMost wider) {depth : Nat}
    {rule : Json} (h : WellFormedRule bound depth rule) : WellFormedRule wider depth rule := by
  induction h with
  | combination within combines _ junction _ branch joined =>
    exact .combination (le _ within) combines branch junction joined
  | leaf within single leaf => exact .leaf (le _ within) single leaf

/-- What is well-formed within a bound is well-formed within a wider one. -/
theorem WellFormed.mono {bound wider : DepthBound} (le : bound.AtMost wider) {element : Json}
    (h : WellFormed bound element) : WellFormed wider element := by
  obtain ⟨ruleSet, rfl, keeps⟩ := h
  obtain ⟨rule, found, wellFormed⟩ := keeps.rule
  exact ⟨ruleSet, rfl, keeps.id, keeps.description, ⟨rule, found, wellFormed.mono le⟩, keeps.actions⟩

/-! ## Fields and leaves -/

/-- A field with declared kinds has no defect exactly if it is absent and need not be present, or if
its value has one of the kinds and passes the nested check. -/
theorem fieldDefects_eq_nil {nested : NestedCheck → Json → List Defect} {name : Text}
    {spec : FieldSpec} {container : Members} (declared : spec.kinds ≠ []) :
    Rulebook.fieldDefects nested name spec container = [] ↔
      (container.get? name = none ∧ spec.required = false) ∨
        ∃ value, container.get? name = some value ∧ value.kind ∈ spec.kinds ∧
          nested spec.check value = [] := by
  unfold Rulebook.fieldDefects
  cases container.get? name with
  | none => cases spec.required <;> simp
  | some value =>
    have kinds : kindDefects name spec.kinds value.kind = [] ↔ value.kind ∈ spec.kinds := by
      rw [kindDefects_eq_nil]
      exact or_iff_right declared
    dsimp only
    cases hk : kindDefects name spec.kinds value.kind with
    | nil => simp [kinds.mp hk]
    | cons defect more =>
      have other : ¬ value.kind ∈ spec.kinds := by
        rw [← kinds, hk]
        exact List.cons_ne_nil _ _
      simp [other]

/-- Every field that a condition calls for must be present and has declared kinds. -/
theorem additionalSpec_of_mem {condition field : Text} {fields : List Text}
    (registered : additionalFieldsOf? condition = some fields) (h : field ∈ fields) :
    (additionalSpec field).required = true ∧ (additionalSpec field).kinds ≠ [] := by
  have all : ∀ entry ∈ conditions, ∀ field ∈ entry.2,
      (additionalSpec field).required = true ∧ (additionalSpec field).kinds ≠ [] := by decide
  exact all _ (mem_of_lookup registered) field h

/-- A field that a condition calls for has no defect exactly if it is there with a value of its
kinds. -/
theorem additionalDefects_eq_nil {condition field : Text} {fields : List Text} {node : Members}
    (registered : additionalFieldsOf? condition = some fields) (h : field ∈ fields) :
    additionalDefects condition node field = [] ↔
      ∃ value, node.get? field = some value ∧ value.kind ∈ (additionalSpec field).kinds := by
  obtain ⟨required, declared⟩ := additionalSpec_of_mem registered h
  unfold additionalDefects
  cases node.get? field with
  | none => simp [required]
  | some value => simp [kindDefects_eq_nil, declared]

/-- A leaf's condition has no defect exactly if it is registered and the fields it calls for are there
with values of their kinds. -/
theorem conditionDefects_eq_nil {node : Members} :
    conditionDefects node = [] ↔ ∃ name fields, node.get? "condition" = some (.str name) ∧
      additionalFieldsOf? name = some fields ∧
      ∀ field ∈ fields, ∃ value, node.get? field = some value ∧
        value.kind ∈ (additionalSpec field).kinds := by
  unfold conditionDefects
  cases found : node.get? "condition" with
  | none => simp
  | some value =>
    cases value with
    | str name =>
      dsimp only
      cases registered : additionalFieldsOf? name with
      | none => simp [registered]
      | some fields =>
        dsimp only
        rw [List.flatMap_eq_nil_iff]
        constructor
        · intro h
          refine ⟨name, fields, rfl, registered, fun field mem => ?_⟩
          exact (additionalDefects_eq_nil registered mem).mp (h field mem)
        · rintro ⟨_, _, same, registered', h⟩ field mem
          cases same
          cases registered.symm.trans registered'
          exact (additionalDefects_eq_nil registered mem).mpr (h field mem)
    | _ => simp

/-- A required field of texts without a nested check has no defect exactly if it is there with a
text. -/
theorem fieldDefects_text_eq_nil {nested : NestedCheck → Json → List Defect} {name : Text}
    {container : Members} {required : Bool} (free : ∀ value, nested .none value = []) :
    Rulebook.fieldDefects nested name { required, kinds := [.string] } container = [] ↔
      (container.get? name = none ∧ required = false) ∨
        ∃ t, container.get? name = some (.str t) := by
  rw [fieldDefects_eq_nil (List.cons_ne_nil _ _)]
  refine or_congr Iff.rfl ⟨?_, ?_⟩
  · rintro ⟨value, found, kind, -⟩
    obtain ⟨t, rfl⟩ := Json.kind_eq_string.mp (List.mem_singleton.mp kind)
    exact ⟨t, found⟩
  · rintro ⟨t, found⟩
    exact ⟨.str t, found, List.mem_singleton.mpr rfl, free _⟩

/-- A leaf has no defect exactly if it is well formed. -/
theorem leafParts_flatten_eq_nil {node : Members} :
    (RuleTree.leafParts node).flatten = [] ↔ WellFormedLeaf node := by
  have condition : Rulebook.fieldDefects (shallowCheck node) "condition"
      { required := true, kinds := [.string], check := .condition } node = [] ↔
      conditionDefects node = [] := by
    rw [fieldDefects_eq_nil (List.cons_ne_nil _ _)]
    constructor
    · rintro (⟨-, impossible⟩ | ⟨value, -, -, h⟩)
      · cases impossible
      · exact h
    · intro h
      obtain ⟨name, -, found, -⟩ := conditionDefects_eq_nil.mp h
      exact Or.inr ⟨.str name, found, List.mem_singleton.mpr rfl, h⟩
  have property : Rulebook.fieldDefects (shallowCheck node) "property"
      { required := true, kinds := [.string] } node = [] ↔
      ∃ name, node.get? "property" = some (.str name) := by
    rw [fieldDefects_text_eq_nil fun _ => rfl]
    simp
  simp only [RuleTree.leafParts, ruleFields, List.map_cons, List.map_nil, List.flatten_cons,
    List.flatten_nil, List.append_nil, List.append_eq_nil_iff, condition, property,
    conditionDefects_eq_nil]
  constructor
  · rintro ⟨condition, property⟩
    exact ⟨condition, property⟩
  · intro h
    exact ⟨h.condition, h.property⟩

/-! ## Rules -/

/-- What is held in a combination field has no defect exactly if it is a rule without defects. -/
theorem heldDefects_eq_nil {rule : Members → List Defect} {name : Text} {held : Json} :
    RuleTree.heldDefects rule name held = [] ↔ ∃ child, held = .obj child ∧ rule child = [] := by
  cases held with
  | obj child => simp [RuleTree.heldDefects]
  | _ => simp [RuleTree.heldDefects, kindDefects_eq_nil, Json.kind]

/-- A branch has no defect exactly if it is absent or holds a rule without defects. -/
theorem combinationDefects_branch_eq_nil {rule : Members → List Defect} {name : Text}
    {node : Members} :
    RuleTree.combinationDefects rule name { kinds := [.object] } node = [] ↔
      ∀ value, node.get? name = some value → ∃ child, value = .obj child ∧ rule child = [] := by
  unfold RuleTree.combinationDefects
  cases node.get? name with
  | none => simp
  | some value =>
    cases value with
    | obj child => simp [kindDefects, Json.kind, RuleTree.heldRules, RuleTree.heldDefects]
    | _ => simp [kindDefects, Json.kind]

/-- A junction has no defect exactly if it is absent or holds an array of rules without defects. -/
theorem combinationDefects_junction_eq_nil {rule : Members → List Defect} {name : Text}
    {node : Members} :
    RuleTree.combinationDefects rule name { kinds := [.array] } node = [] ↔
      ∀ value, node.get? name = some value → ∃ items, value = .arr items ∧
        ∀ item ∈ items, ∃ child, item = .obj child ∧ rule child = [] := by
  unfold RuleTree.combinationDefects
  cases node.get? name with
  | none => simp
  | some value =>
    cases value with
    | arr items =>
      simp [kindDefects, Json.kind, RuleTree.heldRules, List.flatMap_eq_nil_iff, heldDefects_eq_nil]
    | _ => simp [kindDefects, Json.kind]

/-- A rule combines others exactly if it has a branch or a junction. -/
theorem isCombination_iff {node : Members} :
    RuleTree.isCombination node = true ↔
      ∃ name ∈ branchNames ++ junctionNames, node.has name = true := by
  simp [RuleTree.isCombination, combinationFields, branchNames, junctionNames]

/-- The combination fields have no defect exactly if each branch and each junction has none. -/
theorem combinationFields_eq_nil {rule : Members → List Defect} {node : Members} :
    (combinationFields.flatMap fun (name, spec) =>
      RuleTree.combinationDefects rule name spec node) = [] ↔
      (∀ name ∈ branchNames, ∀ value, node.get? name = some value →
        ∃ child, value = .obj child ∧ rule child = []) ∧
      (∀ name ∈ junctionNames, ∀ value, node.get? name = some value →
        ∃ items, value = .arr items ∧ ∀ item ∈ items, ∃ child, item = .obj child ∧
          rule child = []) := by
  simp only [combinationFields, branchNames, junctionNames, List.flatMap_cons, List.flatMap_nil,
    List.append_nil, List.append_eq_nil_iff, combinationDefects_branch_eq_nil,
    combinationDefects_junction_eq_nil, List.forall_mem_cons, List.not_mem_nil, false_implies,
    implies_true, and_true, and_assoc]

/-- The rule in a branch is a child of its node. -/
theorem mem_children_of_branch {node child : Members} {name : Text} (h : name ∈ branchNames)
    (found : node.get? name = some (.obj child)) : child ∈ RuleTree.children node := by
  have field : (name, { kinds := [.object] }) ∈ combinationFields := by
    have all : ∀ name ∈ branchNames, (name, { kinds := [.object] }) ∈ combinationFields := by decide
    exact all name h
  exact RuleTree.mem_children.mpr ⟨name, _, field,
    RuleTree.mem_heldIn.mpr ⟨.obj child, found, rfl, List.mem_singleton.mpr rfl⟩⟩

/-- The rules in a junction are children of its node. -/
theorem mem_children_of_junction {node child : Members} {name : Text} {items : List Json}
    (h : name ∈ junctionNames) (found : node.get? name = some (.arr items))
    (mem : .obj child ∈ items) : child ∈ RuleTree.children node := by
  have field : (name, { kinds := [.array] }) ∈ combinationFields := by
    have all : ∀ name ∈ junctionNames, (name, { kinds := [.array] }) ∈ combinationFields := by
      decide
    exact all name h
  exact RuleTree.mem_children.mpr ⟨name, _, field,
    RuleTree.mem_heldIn.mpr ⟨.arr items, found, rfl, mem⟩⟩

/-- A rule that another one combines lies in one of its branches or junctions. -/
theorem held_of_mem_children {node child : Members} (h : child ∈ RuleTree.children node) :
    (∃ name ∈ branchNames, node.get? name = some (.obj child)) ∨
      ∃ name ∈ junctionNames, ∃ items, node.get? name = some (.arr items) ∧ .obj child ∈ items := by
  have sorts : ∀ entry ∈ combinationFields,
      (entry.1 ∈ branchNames ∧ entry.2.kinds = [.object]) ∨
        (entry.1 ∈ junctionNames ∧ entry.2.kinds = [.array]) := by decide
  obtain ⟨name, spec, field, held⟩ := RuleTree.mem_children.mp h
  obtain ⟨value, found, kind, mem⟩ := RuleTree.mem_heldIn.mp held
  rw [kindDefects_eq_nil] at kind
  rcases sorts _ field with ⟨branch, kinds⟩ | ⟨junction, kinds⟩
  · have object : value.kind = .object := by
      dsimp only at kinds
      simpa [kinds] using kind
    obtain ⟨members, rfl⟩ := Json.kind_eq_object.mp object
    cases List.mem_singleton.mp mem
    exact Or.inl ⟨name, branch, found⟩
  · have array : value.kind = .array := by
      dsimp only at kinds
      simpa [kinds] using kind
    obtain ⟨items, rfl⟩ := Json.kind_eq_array.mp array
    exact Or.inr ⟨name, junction, items, found, mem⟩

namespace WellFormedRule

/-- A well-formed rule is within the bound. -/
theorem within {bound : DepthBound} {depth : Nat} {rule : Json}
    (h : WellFormedRule bound depth rule) : bound.Admits depth := by
  cases h with
  | combination within => exact within
  | leaf within => exact within

/-- A well-formed rule is a node. -/
theorem exists_node {bound : DepthBound} {depth : Nat} {rule : Json}
    (h : WellFormedRule bound depth rule) : ∃ node, rule = .obj node := by
  cases h with
  | combination => exact ⟨_, rfl⟩
  | leaf => exact ⟨_, rfl⟩

/-- All rules in a well-formed rule lie within the bound. -/
theorem admits_deepest {bound : DepthBound} {depth : Nat} {node : Members}
    (h : WellFormedRule bound depth (.obj node)) : bound.Admits (RuleTree.deepest depth node) := by
  induction node using RuleTree.node_induction generalizing depth with
  | step node ih =>
    refine RuleTree.admits_deepest.mpr ⟨h.within, fun child combined => ?_⟩
    have held := held_of_mem_children combined
    cases h with
    | combination _ _ branch _ joined =>
      rcases held with ⟨name, mem, found⟩ | ⟨name, mem, items, found, joins⟩
      · exact ih child combined (branch name mem _ found)
      · exact ih child combined (joined name mem items found _ joins)
    | leaf _ single =>
      rcases held with ⟨name, mem, found⟩ | ⟨name, mem, items, found, -⟩
      · exact absurd found (by simp [Members.has_eq_false_iff.mp (single name (by simp [mem]))])
      · exact absurd found (by simp [Members.has_eq_false_iff.mp (single name (by simp [mem]))])

end WellFormedRule

/-- A rule has no defect at a depth exactly if it is well formed there. -/
theorem ruleDefects_eq_nil {bound : DepthBound} {depth : Nat} {node : Members} :
    RuleTree.ruleDefects bound depth node = [] ↔ WellFormedRule bound depth (.obj node) := by
  induction node using RuleTree.node_induction generalizing depth with
  -- The children of a node are a level deeper, so the hypothesis is about every depth.
  | step node ih =>
    rw [RuleTree.ruleDefects_eq]
    by_cases within : bound.Admits depth
    · rw [if_neg (by rw [within]; exact Bool.false_ne_true)]
      by_cases combines : RuleTree.isCombination node = true
      · rw [if_pos combines, combinationFields_eq_nil]
        constructor
        · rintro ⟨branch, junction⟩
          refine .combination within (isCombination_iff.mp combines) ?_ ?_ ?_
          · intro name mem value found
            obtain ⟨child, rfl, h⟩ := branch name mem value found
            exact (ih child (mem_children_of_branch mem found)).mp h
          · intro name mem value found
            obtain ⟨items, rfl, -⟩ := junction name mem value found
            exact ⟨items, rfl⟩
          · intro name mem items found item joined
            obtain ⟨_, same, h⟩ := junction name mem _ found
            cases same
            obtain ⟨child, rfl, h⟩ := h item joined
            exact (ih child (mem_children_of_junction mem found joined)).mp h
        · intro h
          cases h with
          | leaf _ single =>
            obtain ⟨name, mem, present⟩ := isCombination_iff.mp combines
            rw [single name mem] at present
            cases present
          | combination _ _ branch junction joined =>
            constructor
            · intro name mem value found
              obtain ⟨child, rfl⟩ := (branch name mem value found).exists_node
              have h := branch name mem _ found
              exact ⟨child, rfl, (ih child (mem_children_of_branch mem found)).mpr h⟩
            · intro name mem value found
              obtain ⟨items, rfl⟩ := junction name mem value found
              refine ⟨items, rfl, fun item held => ?_⟩
              obtain ⟨child, rfl⟩ := (joined name mem items found item held).exists_node
              have h := joined name mem items found _ held
              exact ⟨child, rfl, (ih child (mem_children_of_junction mem found held)).mpr h⟩
      · rw [if_neg combines, leafParts_flatten_eq_nil]
        have single : ∀ name ∈ branchNames ++ junctionNames, node.has name = false := by
          intro name mem
          rw [← Bool.not_eq_true]
          exact fun present => combines (isCombination_iff.mpr ⟨name, mem, present⟩)
        constructor
        · exact .leaf within single
        · intro h
          cases h with
          | leaf _ _ leaf => exact leaf
          | combination _ present => exact absurd (isCombination_iff.mpr present) combines
    · rw [if_pos (DepthBound.not_admits.mp within)]
      constructor
      · intro impossible
        cases impossible
      · intro h
        exact absurd h.within within

/-- The walk over a rule tree finds no defect exactly if the rule is well formed at the first
level. -/
theorem ruleTree_defects_eq_nil {bound : DepthBound} {node : Members} :
    RuleTree.defects bound (.obj node) = [] ↔ WellFormedRule bound 1 (.obj node) := by
  rw [← ruleDefects_eq_nil]
  have walk : RuleTree.defects bound (.obj node) =
      keepFirst (.tooDeep bound) (RuleTree.ruleDefects bound 1 node) :=
    RuleTree.nodeDefects_eq_keepFirst bound node
  rw [walk, keepFirst_eq_nil]

/-! ## Actions, rule sets and elements -/

/-- An action has no defect exactly if it is well formed. -/
theorem actionDefects_eq_nil {action : Json} :
    actionDefects action = [] ↔ WellFormedAction action := by
  have declared : ∀ entry ∈ actionFields, entry.2.kinds ≠ [] := by decide
  have key_eq_nil (key : Text) (value : Json) : actionKeyDefects key value = [] ↔
      ∃ spec, actionFields.lookup key = some spec ∧ value.kind ∈ spec.kinds := by
    unfold actionKeyDefects
    cases known : actionFields.lookup key with
    | none => simp
    | some spec =>
      have : spec.kinds ≠ [] := declared (key, spec) (mem_of_lookup known)
      simp [kindDefects_eq_nil, this]
  unfold WellFormedAction
  cases action with
  | obj members =>
    simp only [actionDefects, List.flatMap_eq_nil_iff, Prod.forall, key_eq_nil, Json.obj.injEq,
      exists_eq_left']
  | _ => simp [actionDefects, kindDefects, Json.kind]

/-- Actions have no defects exactly if each of them is well-formed. -/
theorem actionsDefects_eq_nil {items : List Json} :
    actionsDefects (.arr items) = [] ↔ ∀ action ∈ items, WellFormedAction action := by
  simp only [actionsDefects, actionParts?, Option.getD_some, List.flatMap_eq_nil_iff,
    actionDefects_eq_nil]

/-- A rule set has no defects exactly if it is well-formed. -/
theorem ruleSetDefects_eq_nil {bound : DepthBound} {ruleSet : Members} :
    ruleSetDefects bound ruleSet = [] ↔ WellFormedRuleSet bound ruleSet := by
  -- The grammar of a rule set is field by field, so each field is compared with its own clause.
  have optional_text (name : Text) :
      fieldDefects bound name { kinds := [.string] } ruleSet = [] ↔
        ∀ value, ruleSet.get? name = some value → ∃ t, value = .str t := by
    unfold fieldDefects
    rw [fieldDefects_text_eq_nil fun _ => rfl]
    cases ruleSet.get? name <;> simp
  have rule : fieldDefects bound "rule" { required := true, kinds := [.object], check := .ruleTree }
      ruleSet = [] ↔ ∃ rule, ruleSet.get? "rule" = some rule ∧ WellFormedRule bound 1 rule := by
    unfold fieldDefects
    rw [fieldDefects_eq_nil (List.cons_ne_nil _ _)]
    constructor
    · rintro (⟨-, impossible⟩ | ⟨value, found, kind, h⟩)
      · cases impossible
      · obtain ⟨node, rfl⟩ := Json.kind_eq_object.mp (List.mem_singleton.mp kind)
        exact ⟨.obj node, found, ruleTree_defects_eq_nil.mp h⟩
    · rintro ⟨rule, found, h⟩
      obtain ⟨node, rfl⟩ := h.exists_node
      exact Or.inr ⟨.obj node, found, List.mem_singleton.mpr rfl, ruleTree_defects_eq_nil.mpr h⟩
  have actions : fieldDefects bound "actions" { kinds := [.array], check := .actions } ruleSet = [] ↔
      ∀ value, ruleSet.get? "actions" = some value →
        ∃ items, value = .arr items ∧ ∀ action ∈ items, WellFormedAction action := by
    unfold fieldDefects
    rw [fieldDefects_eq_nil (List.cons_ne_nil _ _)]
    cases ruleSet.get? "actions" with
    | none => simp
    | some value =>
      cases value with
      | arr items => simp [Json.kind, nestedCheck, shallowCheck, actionsDefects_eq_nil]
      | _ => simp [Json.kind]
  simp only [ruleSetDefects, mainFields, List.flatMap_cons, List.flatMap_nil, List.append_nil,
    List.append_eq_nil_iff, optional_text, rule, actions]
  constructor
  · rintro ⟨id, description, rule, actions⟩
    exact ⟨id, description, rule, actions⟩
  · intro h
    exact ⟨h.id, h.description, h.rule, h.actions⟩

/-- An element of a document has no defect exactly if it is well formed. -/
theorem elementDefects_eq_nil {bound : DepthBound} {element : Json} :
    elementDefects bound element = [] ↔ WellFormed bound element := by
  unfold WellFormed
  cases element with
  | obj ruleSet => simp [elementDefects, ruleSetDefects_eq_nil]
  | _ => simp [elementDefects, kindDefects, Json.kind]

end Document

end Rulebook
