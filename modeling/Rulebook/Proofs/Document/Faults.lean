import Rulebook.Proofs.Lists
import Rulebook.Proofs.Document.Labels
import Rulebook.Proofs.Json.DistinctKeys

/-!
# Single faults

One change to a valid document, at whatever place, gives one message: it neither hides behind another
check nor brings others with it. The faults are relations between what stood in a place and what stands
there now, one relation for each level from the leaf of a tree up to the element, and each fault says
which defect it is to be reported as.

* **leaf** (`LeafFault.leafParts_eq`): the fields of a leaf are checked apart, and those that a condition
  calls for are neither the condition nor the property.
* **rule** (`RuleFault.ruleDefects_eq`): induction on the path down to the fault. On each level one
  combination field is changed and the others report nothing, as before.
* **element** (`ElementFault.elementDefects_eq`): the fields of a rule set and its actions likewise.
* **document** (`single_fault_single_message`): the messages of the other elements stay away.
-/

set_option autoImplicit false

namespace Rulebook

namespace Members

/-- The second members have another value under one key, or none, and are otherwise the first. -/
structure EditedAt (key : Text) (value? : Option Json) (members edited : Members) : Prop where
  here : edited.get? key = value?
  elsewhere : ∀ other, other ≠ key → edited.get? other = members.get? other

/-- Putting a value at a key edits an object at that key only. -/
theorem editedAt_put (key : Text) (value : Json) (members : Members) :
    EditedAt key (some value) members (put key value members) := by
  constructor
  · rw [get?_put, if_pos rfl]
  · intro other different
    rw [get?_put, if_neg different]

end Members

open Members (EditedAt)

namespace Document

open RuleTree

variable {bound : DepthBound} {depth : Nat} {node node' ruleSet ruleSet' : Members} {defect : Defect}
  {name : Text} {spec : FieldSpec} {value? : Option Json}

/-! ## Leaves -/

/-- A fault in a leaf: a condition that is not registered, a field that is gone, or one whose value is
of none of the kinds declared for it. -/
inductive LeafFault (node node' : Members) : Defect → Prop where
  | unregistered {condition : Text} (unregistered : additionalFieldsOf? condition = none)
      (edited : EditedAt "condition" (some (.str condition)) node node') :
      LeafFault node node' (.unknownCondition (.str condition))
  | missing {name : Text} {spec : FieldSpec} (field : (name, spec) ∈ ruleFields)
      (edited : EditedAt name none node node') : LeafFault node node' (.missingField name)
  | misfit {name : Text} {spec : FieldSpec} {value : Json} (field : (name, spec) ∈ ruleFields)
      (misfit : value.kind ∉ spec.kinds) (edited : EditedAt name (some value) node node') :
      LeafFault node node' (.wrongKind name spec.kinds value.kind)
  | missingAdditional {condition field : Text} {fields : List Text}
      (called : node.get? "condition" = some (.str condition))
      (registered : additionalFieldsOf? condition = some fields) (listed : field ∈ fields)
      (edited : EditedAt field none node node') :
      LeafFault node node' (.missingAdditionalField condition field)
  | misfitAdditional {condition field : Text} {fields : List Text} {value : Json}
      (called : node.get? "condition" = some (.str condition))
      (registered : additionalFieldsOf? condition = some fields) (listed : field ∈ fields)
      (misfit : value.kind ∉ (additionalSpec field).kinds)
      (edited : EditedAt field (some value) node node') :
      LeafFault node node' (.wrongKind field (additionalSpec field).kinds value.kind)

/-- The fields that a condition calls for are no others of a leaf, and none is called for twice. -/
theorem additional_of_mem {condition field : Text} {fields : List Text}
    (registered : additionalFieldsOf? condition = some fields) (listed : field ∈ fields) :
    fields.Nodup ∧ field ≠ "condition" ∧ field ≠ "property" ∧
      field ∉ branchNames ++ junctionNames := by
  have all : ∀ entry ∈ conditions, entry.2.Nodup ∧ ∀ field ∈ entry.2,
      field ≠ "condition" ∧ field ≠ "property" ∧ field ∉ branchNames ++ junctionNames := by decide
  obtain ⟨distinct, apart⟩ := all _ (mem_of_lookup registered)
  exact ⟨distinct, apart field listed⟩

/-- The parts of a leaf together are the defects of its fields, one field after another. -/
theorem leafParts_flatten (node : Members) :
    (leafParts node).flatten =
      ruleFields.flatMap fun (name, spec) =>
        Rulebook.fieldDefects (shallowCheck node) name spec node := by
  rw [leafParts, List.flatMap_def]

/-- A field `property` that is a text has no defect. -/
theorem property_eq_nil (found : ∃ t, node.get? "property" = some (.str t)) :
    Rulebook.fieldDefects (shallowCheck node) "property" { required := true, kinds := [.string] }
      node = [] := by
  rw [fieldDefects_text_eq_nil fun _ => rfl]
  exact Or.inr found

/-- A leaf whose condition and property are texts has the defects of its condition and no others. -/
theorem leafParts_of_text {condition : Text} (found : node.get? "condition" = some (.str condition))
    (property : ∃ t, node.get? "property" = some (.str t)) :
    (leafParts node).flatten = conditionDefects node := by
  rw [leafParts_flatten]
  simp only [ruleFields, List.flatMap_cons, List.flatMap_nil, property_eq_nil property,
    List.append_nil]
  exact fieldDefects_of_fit found (by simp [Json.kind])

/-- A well-formed leaf that is edited in its condition or its property reports that field alone. -/
theorem leafParts_of_field (field : (name, spec) ∈ ruleFields) (leaf : WellFormedLeaf node)
    (edited : EditedAt name value? node node') :
    (leafParts node').flatten = Rulebook.fieldDefects (shallowCheck node') name spec node' := by
  rw [leafParts_flatten]
  apply flatMap_eq_of_key (by decide) field
  rintro ⟨other, other_spec⟩ other_field different
  dsimp only at different ⊢
  have kept := edited.elsewhere other different
  simp only [ruleFields, List.mem_cons, Prod.mk.injEq, List.not_mem_nil, or_false] at field other_field
  rcases other_field with ⟨rfl, rfl⟩ | ⟨rfl, rfl⟩
  · -- The property is edited; the condition and what it calls for are as they were.
    obtain ⟨rfl, -⟩ := field.resolve_left fun same => different same.1.symm
    obtain ⟨condition, fields, found, registered, given⟩ := leaf.condition
    rw [fieldDefects_of_fit (kept.trans found) (by simp [Json.kind])]
    apply conditionDefects_eq_nil.mpr
    refine ⟨condition, fields, kept.trans found, registered, ?_⟩
    intro field listed
    obtain ⟨-, -, no_property, -⟩ := additional_of_mem registered listed
    rw [edited.elsewhere field no_property]
    exact given field listed
  · obtain ⟨t, found⟩ := leaf.property
    exact property_eq_nil ⟨t, kept.trans found⟩

/-- A well-formed leaf that is edited in a field its condition calls for reports that field alone. -/
theorem leafParts_of_additional {condition field : Text} {fields : List Text}
    (called : node.get? "condition" = some (.str condition))
    (registered : additionalFieldsOf? condition = some fields) (listed : field ∈ fields)
    (leaf : WellFormedLeaf node) (edited : EditedAt field value? node node') :
    (leafParts node').flatten = additionalDefects condition node' field := by
  obtain ⟨distinct, no_condition, no_property, -⟩ := additional_of_mem registered listed
  have found : node'.get? "condition" = some (.str condition) := by
    rw [edited.elsewhere _ no_condition.symm, called]
  have property : ∃ t, node'.get? "property" = some (.str t) := by
    rw [edited.elsewhere _ no_property.symm]
    exact leaf.property
  rw [leafParts_of_text found property]
  simp only [conditionDefects, found, registered]
  apply flatMap_eq_of_mem distinct listed
  intro other other_listed different
  obtain ⟨_, _, same, registered', given⟩ := leaf.condition
  cases called.symm.trans same
  cases registered.symm.trans registered'
  rw [additionalDefects_eq_nil registered other_listed, edited.elsewhere other different]
  exact given other other_listed

/-- A fault in a sound leaf is the only defect of the faulty leaf. -/
theorem LeafFault.leafParts_eq (fault : LeafFault node node' defect) (leaf : WellFormedLeaf node) :
    (leafParts node').flatten = [defect] := by
  have declared : ∀ entry ∈ ruleFields, entry.2.required = true ∧ entry.2.kinds ≠ [] := by decide
  cases fault with
  | unregistered unregistered edited =>
    have property : ∃ t, node'.get? "property" = some (.str t) := by
      rw [edited.elsewhere _ (by decide)]
      exact leaf.property
    rw [leafParts_of_text edited.here property]
    simp only [conditionDefects, edited.here, unregistered]
  | missing field edited =>
    rw [leafParts_of_field field leaf edited]
    exact fieldDefects_of_absent edited.here (declared _ field).1
  | misfit field misfit edited =>
    rw [leafParts_of_field field leaf edited]
    exact fieldDefects_of_misfit edited.here (declared _ field).2 misfit
  | missingAdditional called registered listed edited =>
    have required := (additionalSpec_of_mem registered listed).1
    rw [leafParts_of_additional called registered listed leaf edited]
    simp [additionalDefects, edited.here, required]
  | misfitAdditional called registered listed misfit edited =>
    have kinds := (additionalSpec_of_mem registered listed).2
    rw [leafParts_of_additional called registered listed leaf edited]
    simp only [additionalDefects, edited.here]
    exact kindDefects_of_misfit kinds misfit

/-- A fault in a leaf does not make it a combination. -/
theorem LeafFault.isCombination_eq (fault : LeafFault node node' defect) :
    isCombination node' = isCombination node := by
  have leaf_field : ∀ entry ∈ ruleFields, entry.1 ∉ branchNames ++ junctionNames := by decide
  have edit : ∃ key value?, key ∉ branchNames ++ junctionNames ∧ EditedAt key value? node node' := by
    cases fault with
    | unregistered _ edited => exact ⟨_, _, by decide, edited⟩
    | missing field edited => exact ⟨_, _, leaf_field _ field, edited⟩
    | misfit field _ edited => exact ⟨_, _, leaf_field _ field, edited⟩
    | missingAdditional _ registered listed edited =>
      exact ⟨_, _, (additional_of_mem registered listed).2.2.2, edited⟩
    | misfitAdditional _ registered listed _ edited =>
      exact ⟨_, _, (additional_of_mem registered listed).2.2.2, edited⟩
  obtain ⟨key, value?, no_combination, edited⟩ := edit
  rw [Bool.eq_iff_iff, isCombination_iff, isCombination_iff]
  simp only [Members.has]
  constructor
  · rintro ⟨name, listed, present⟩
    rw [edited.elsewhere name (ne_of_mem_of_not_mem listed no_combination)] at present
    exact ⟨name, listed, present⟩
  · rintro ⟨name, listed, present⟩
    rw [← edited.elsewhere name (ne_of_mem_of_not_mem listed no_combination)] at present
    exact ⟨name, listed, present⟩

/-! ## Rules -/

/-- A fault in a rule or in one of those that it combines, down to the leaves. -/
inductive RuleFault : Members → Members → Defect → Prop where
  | inLeaf {node node' : Members} {defect : Defect} (single : isCombination node = false)
      (fault : LeafFault node node' defect) : RuleFault node node' defect
  | misfit {node node' : Members} {name : Text} {spec : FieldSpec} {value : Json}
      (field : (name, spec) ∈ combinationFields) (present : node.has name = true)
      (misfit : value.kind ∉ spec.kinds) (edited : EditedAt name (some value) node node') :
      RuleFault node node' (.wrongKind name spec.kinds value.kind)
  | noRule {node node' : Members} {name : Text} {items : List Json} {place : Nat} {value : Json}
      (junction : name ∈ junctionNames) (found : node.get? name = some (.arr items))
      (lt : place < items.length) (no_object : value.kind ≠ .object)
      (edited : EditedAt name (some (.arr (items.set place value))) node node') :
      RuleFault node node' (.wrongKind name [.object] value.kind)
  | inBranch {node node' child child' : Members} {defect : Defect} {name : Text}
      (branch : name ∈ branchNames) (found : node.get? name = some (.obj child))
      (fault : RuleFault child child' defect)
      (edited : EditedAt name (some (.obj child')) node node') : RuleFault node node' defect
  | inJunction {node node' child child' : Members} {defect : Defect} {name : Text}
      {items : List Json} {place : Nat} (junction : name ∈ junctionNames)
      (found : node.get? name = some (.arr items)) (there : items[place]? = some (.obj child))
      (fault : RuleFault child child' defect)
      (edited : EditedAt name (some (.arr (items.set place (.obj child')))) node node') :
      RuleFault node node' defect

/-- A rule without defects is within the bound. -/
theorem admits_of_ruleDefects_eq_nil (sound : ruleDefects bound depth node = []) :
    bound.Admits depth := by
  by_contra beyond
  rw [ruleDefects_of_not_admits beyond] at sound
  cases sound

/-- In a rule without defects a combination field holds rules without defects. -/
theorem held_of_ruleDefects_eq_nil (sound : ruleDefects bound depth node = [])
    (field : (name, spec) ∈ combinationFields) {value : Json} (found : node.get? name = some value) :
    kindDefects name spec.kinds value.kind = [] ∧
      ∀ held ∈ heldRules value, heldDefects (ruleDefects bound (depth + 1)) name held = [] := by
  have combines : isCombination node = true :=
    List.any_eq_true.mpr ⟨(name, spec), field, Members.has_iff.mpr ⟨value, found⟩⟩
  rw [ruleDefects_of_admits (admits_of_ruleDefects_eq_nil sound), if_pos combines,
    List.flatMap_eq_nil_iff] at sound
  have nothing : combinationDefects (ruleDefects bound (depth + 1)) name spec node = [] :=
    sound _ field
  unfold combinationDefects at nothing
  simp only [found] at nothing
  cases kinds : kindDefects name spec.kinds value.kind with
  | nil =>
    simp only [kinds, List.flatMap_eq_nil_iff] at nothing
    exact ⟨rfl, nothing⟩
  | cons first more => simp [kinds] at nothing

/-- A rule without defects that is edited in a combination field reports that field alone. -/
theorem ruleDefects_of_field (field : (name, spec) ∈ combinationFields)
    (sound : ruleDefects bound depth node = []) (present : node.has name = true) {value : Json}
    (edited : EditedAt name (some value) node node') :
    ruleDefects bound depth node' =
      combinationDefects (ruleDefects bound (depth + 1)) name spec node' := by
  have within := admits_of_ruleDefects_eq_nil sound
  have combines : isCombination node = true := List.any_eq_true.mpr ⟨(name, spec), field, present⟩
  have combines' : isCombination node' = true :=
    List.any_eq_true.mpr ⟨(name, spec), field, Members.has_iff.mpr ⟨value, edited.here⟩⟩
  rw [ruleDefects_of_admits within, if_pos combines, List.flatMap_eq_nil_iff] at sound
  rw [ruleDefects_of_admits within, if_pos combines']
  apply flatMap_eq_of_key (by decide) field
  rintro ⟨other, other_spec⟩ other_field different
  have nothing := sound _ other_field
  unfold combinationDefects at nothing ⊢
  rw [edited.elsewhere other different]
  exact nothing

/-- A combination with a value of the right kind has the defects of the rules it holds. -/
theorem combinationDefects_of_found {rule : Members → List Defect} {value : Json}
    (found : node.get? name = some value) (fits : value.kind ∈ spec.kinds) :
    combinationDefects rule name spec node = (heldRules value).flatMap (heldDefects rule name) := by
  have no_defect : kindDefects name spec.kinds value.kind = [] :=
    kindDefects_eq_nil.mpr (Or.inr fits)
  simp [combinationDefects, found, no_defect]

/-- The fields that hold several rules take arrays. -/
theorem mem_combinationFields_of_junction (junction : name ∈ junctionNames) :
    (name, { kinds := [.array] }) ∈ combinationFields := by
  have all : ∀ name ∈ junctionNames, (name, { kinds := [.array] }) ∈ combinationFields := by decide
  exact all name junction

/-- The fields that hold one rule take objects. -/
theorem mem_combinationFields_of_branch (branch : name ∈ branchNames) :
    (name, { kinds := [.object] }) ∈ combinationFields := by
  have all : ∀ name ∈ branchNames, (name, { kinds := [.object] }) ∈ combinationFields := by decide
  exact all name branch

/-- A rule without defects that has another item in a junction reports that item alone. -/
theorem ruleDefects_of_item {items : List Json} {place : Nat} {value : Json}
    (sound : ruleDefects bound depth node = []) (junction : name ∈ junctionNames)
    (found : node.get? name = some (.arr items)) (lt : place < items.length)
    (edited : EditedAt name (some (.arr (items.set place value))) node node') :
    ruleDefects bound depth node' = heldDefects (ruleDefects bound (depth + 1)) name value := by
  have field := mem_combinationFields_of_junction junction
  obtain ⟨-, held⟩ := held_of_ruleDefects_eq_nil sound field found
  rw [ruleDefects_of_field field sound (Members.has_iff.mpr ⟨_, found⟩) edited,
    combinationDefects_of_found edited.here (by simp [Json.kind])]
  exact flatMap_set held lt value

/-- One fault in a rule without defects is one defect, however far down it lies. -/
theorem RuleFault.ruleDefects_eq (fault : RuleFault node node' defect)
    (sound : ruleDefects bound depth node = []) : ruleDefects bound depth node' = [defect] := by
  have declared : ∀ entry ∈ combinationFields, entry.2.kinds ≠ [] := by decide
  -- On the way down to the fault, at every depth: on each level one field is edited, and what it holds
  -- is one level further down.
  induction fault generalizing depth with
  | @inLeaf node node' defect single fault =>
    have single' : isCombination node' = false := fault.isCombination_eq.trans single
    have within := admits_of_ruleDefects_eq_nil sound
    rw [ruleDefects_of_admits within, single, if_neg Bool.false_ne_true,
      leafParts_flatten_eq_nil] at sound
    rw [ruleDefects_of_admits within, single', if_neg Bool.false_ne_true]
    exact fault.leafParts_eq sound
  | misfit field present misfit edited =>
    rw [ruleDefects_of_field field sound present edited]
    simp [combinationDefects, edited.here, kindDefects_of_misfit (declared _ field) misfit]
  | @noRule _ _ _ _ _ value junction found lt no_object edited =>
    rw [ruleDefects_of_item sound junction found lt edited]
    cases value with
    | obj members => exact absurd rfl no_object
    | _ => exact kindDefects_of_noObject no_object
  | inBranch branch found fault edited ih =>
    have field := mem_combinationFields_of_branch branch
    obtain ⟨-, held⟩ := held_of_ruleDefects_eq_nil sound field found
    rw [ruleDefects_of_field field sound (Members.has_iff.mpr ⟨_, found⟩) edited,
      combinationDefects_of_found edited.here (by simp [Json.kind])]
    simp only [heldRules, List.flatMap_cons, List.flatMap_nil, List.append_nil]
    exact ih (held (.obj _) (by simp [heldRules]))
  | inJunction junction found there fault edited ih =>
    obtain ⟨lt, -⟩ := List.getElem?_eq_some_iff.mp there
    have field := mem_combinationFields_of_junction junction
    obtain ⟨-, held⟩ := held_of_ruleDefects_eq_nil sound field found
    rw [ruleDefects_of_item sound junction found lt edited]
    exact ih (held _ (List.mem_of_getElem? there))

/-! ## Actions, rule sets and elements -/

/-- A fault in an action: it is no object, or one of its keys has a value of none of the kinds declared
for it or is no action field. -/
inductive ActionFault : Json → Json → Defect → Prop where
  | noObject {action value : Json} (no_object : value.kind ≠ .object) :
      ActionFault action value (.wrongKind "actions" [.object] value.kind)
  | misfit {members members' : Members} {key : Text} {spec : FieldSpec} {value : Json}
      (field : (key, spec) ∈ actionFields) (misfit : value.kind ∉ spec.kinds)
      (edited : EditedAt key (some value) members members') :
      ActionFault (.obj members) (.obj members') (.wrongKind key spec.kinds value.kind)
  | unknown {members members' : Members} {key : Text} {value : Json}
      (unknown : ∀ spec, (key, spec) ∉ actionFields)
      (edited : EditedAt key (some value) members members') :
      ActionFault (.obj members) (.obj members') (.unknownAction key)

/-- An action without defects that is edited under one key reports that key alone. -/
theorem actionDefects_of_key {members members' : Members} {key : Text} {value : Json}
    (sound : actionDefects (.obj members) = []) (distinct : members'.keys.Nodup)
    (edited : EditedAt key (some value) members members') :
    actionDefects (.obj members') = actionKeyDefects key value := by
  simp only [actionDefects, List.flatMap_eq_nil_iff] at sound ⊢
  apply flatMap_eq_of_key distinct (Members.mem_of_get? edited.here)
  rintro ⟨other, other_value⟩ listed different
  have found : members.get? other = some other_value := by
    rw [← edited.elsewhere other different]
    exact Members.get?_of_mem distinct listed
  exact sound _ (Members.mem_of_get? found)

/-- A fault in a sound action is its only defect. -/
theorem ActionFault.actionDefects_eq {action action' : Json}
    (fault : ActionFault action action' defect) (sound : actionDefects action = [])
    (distinct : action'.hasDistinctKeys = true) : actionDefects action' = [defect] := by
  cases fault with
  | noObject no_object =>
    cases action' with
    | obj members => exact absurd rfl no_object
    | _ => exact kindDefects_of_noObject no_object
  | misfit field misfit edited =>
    rw [actionDefects_of_key sound (Json.hasDistinctKeys_obj.mp distinct).1 edited, actionKeyDefects,
      lookup_of_mem nodup_actionFields field]
    exact kindDefects_of_misfit (kinds_of_actionField field) misfit
  | @unknown _ _ key _ unknown edited =>
    rw [actionDefects_of_key sound (Json.hasDistinctKeys_obj.mp distinct).1 edited, actionKeyDefects]
    cases known : actionFields.lookup key with
    | none => rfl
    | some spec => exact absurd (mem_of_lookup known) (unknown spec)

/-- A fault in a rule set: its rule is gone, a field other than the identifier has a value of none of the
kinds declared for it, or there is a fault in its rule or in one of its actions. -/
inductive RuleSetFault (ruleSet ruleSet' : Members) : Defect → Prop where
  | missingRule (edited : EditedAt "rule" none ruleSet ruleSet') :
      RuleSetFault ruleSet ruleSet' (.missingField "rule")
  | misfit {name : Text} {spec : FieldSpec} {value : Json} (field : (name, spec) ∈ mainFields)
      (no_id : name ≠ "id") (misfit : value.kind ∉ spec.kinds)
      (edited : EditedAt name (some value) ruleSet ruleSet') :
      RuleSetFault ruleSet ruleSet' (.wrongKind name spec.kinds value.kind)
  | inRule {node node' : Members} {defect : Defect} (found : ruleSet.get? "rule" = some (.obj node))
      (fault : RuleFault node node' defect)
      (edited : EditedAt "rule" (some (.obj node')) ruleSet ruleSet') :
      RuleSetFault ruleSet ruleSet' defect
  | inActions {items : List Json} {place : Nat} {action action' : Json} {defect : Defect}
      (found : ruleSet.get? "actions" = some (.arr items)) (there : items[place]? = some action)
      (fault : ActionFault action action' defect)
      (edited : EditedAt "actions" (some (.arr (items.set place action'))) ruleSet ruleSet') :
      RuleSetFault ruleSet ruleSet' defect

/-- A rule set without defects that is edited in one field reports that field alone. -/
theorem ruleSetDefects_of_field (field : (name, spec) ∈ mainFields)
    (sound : ruleSetDefects bound ruleSet = []) (edited : EditedAt name value? ruleSet ruleSet') :
    ruleSetDefects bound ruleSet' = fieldDefects bound name spec ruleSet' := by
  rw [ruleSetDefects, List.flatMap_eq_nil_iff] at sound
  apply flatMap_eq_of_key (by decide) field
  rintro ⟨other, other_spec⟩ other_field different
  have nothing := sound _ other_field
  dsimp only at different nothing ⊢
  unfold fieldDefects Rulebook.fieldDefects at nothing ⊢
  rw [edited.elsewhere other different, nestedCheck_of_mainField other_field ruleSet' ruleSet]
  exact nothing

/-- The tree of a rule set without defects has none, and neither has any of its actions. -/
theorem parts_of_ruleSetDefects_eq_nil (sound : ruleSetDefects bound ruleSet = []) :
    (∀ node, ruleSet.get? "rule" = some (.obj node) → ruleDefects bound 1 node = []) ∧
      ∀ items, ruleSet.get? "actions" = some (.arr items) →
        ∀ action ∈ items, actionDefects action = [] := by
  have wellFormed := ruleSetDefects_eq_nil.mp sound
  constructor
  · intro node found
    obtain ⟨rule, found', keeps⟩ := wellFormed.rule
    cases found.symm.trans found'
    exact ruleDefects_eq_nil.mpr keeps
  · intro items found action listed
    obtain ⟨items', same, keeps⟩ := wellFormed.actions _ found
    cases same
    exact actionDefects_eq_nil.mpr (keeps action listed)

/-- A fault in a sound rule set is its only defect. -/
theorem RuleSetFault.ruleSetDefects_eq (fault : RuleSetFault ruleSet ruleSet' defect)
    (sound : ruleSetDefects bound ruleSet = [])
    (distinct : (Json.obj ruleSet').hasDistinctKeys = true) :
    ruleSetDefects bound ruleSet' = [defect] := by
  have rule : (("rule", { required := true, kinds := [.object], check := .ruleTree }) :
      Text × FieldSpec) ∈ mainFields := by decide
  have actions : (("actions", { kinds := [.array], check := .actions }) :
      Text × FieldSpec) ∈ mainFields := by decide
  obtain ⟨rule_sound, actions_sound⟩ := parts_of_ruleSetDefects_eq_nil sound
  cases fault with
  | missingRule edited =>
    rw [ruleSetDefects_of_field rule sound edited]
    exact fieldDefects_of_absent edited.here rfl
  | misfit field no_id misfit edited =>
    rw [ruleSetDefects_of_field field sound edited]
    exact fieldDefects_of_misfit edited.here (declared_of_mainField field).1 misfit
  | @inRule node node' _ found fault edited =>
    have one : ruleDefects bound 1 node' = [defect] := fault.ruleDefects_eq (rule_sound node found)
    have walked : fieldDefects bound "rule"
        { required := true, kinds := [.object], check := .ruleTree } ruleSet' =
          nodeDefects bound node' := fieldDefects_of_fit edited.here (by simp [Json.kind])
    rw [ruleSetDefects_of_field rule sound edited, walked, nodeDefects_eq_keepFirst, one]
    simp [keepFirst]
  | @inActions items place action action' _ found there fault edited =>
    obtain ⟨lt, -⟩ := List.getElem?_eq_some_iff.mp there
    have none_in_items := actions_sound items found
    have distinct' : action'.hasDistinctKeys = true := by
      have all := (Json.hasDistinctKeys_obj.mp distinct).2 _ _ (Members.mem_of_get? edited.here)
      exact Json.hasDistinctKeys_arr.mp all action' (List.mem_set lt _)
    have checked : fieldDefects bound "actions" { kinds := [.array], check := .actions } ruleSet' =
        actionsDefects (.arr (items.set place action')) :=
      fieldDefects_of_fit edited.here (by simp [Json.kind])
    have alone : actionsDefects (.arr (items.set place action')) = actionDefects action' :=
      flatMap_set none_in_items lt action'
    rw [ruleSetDefects_of_field actions sound edited, checked, alone]
    exact fault.actionDefects_eq (none_in_items action (List.mem_of_getElem? there)) distinct'

/-- No fault touches the identifier of a rule set. -/
theorem RuleSetFault.get?_id (fault : RuleSetFault ruleSet ruleSet' defect) :
    ruleSet'.get? "id" = ruleSet.get? "id" := by
  cases fault with
  | missingRule edited => exact edited.elsewhere _ (by decide)
  | misfit _ no_id _ edited => exact edited.elsewhere _ no_id.symm
  | inRule _ _ edited => exact edited.elsewhere _ (by decide)
  | inActions _ _ _ edited => exact edited.elsewhere _ (by decide)

/-- A fault in an element of a document: it is no object, or there is a fault in the rule set. -/
inductive ElementFault : Json → Json → Defect → Prop where
  | noObject {element value : Json} (no_object : value.kind ≠ .object) :
      ElementFault element value (.wrongKind "rule set" [.object] value.kind)
  | inRuleSet {ruleSet ruleSet' : Members} {defect : Defect}
      (fault : RuleSetFault ruleSet ruleSet' defect) :
      ElementFault (.obj ruleSet) (.obj ruleSet') defect

/-- A fault in a sound element is its only defect. -/
theorem ElementFault.elementDefects_eq {element element' : Json}
    (fault : ElementFault element element' defect) (sound : elementDefects bound element = [])
    (distinct : element'.hasDistinctKeys = true) : elementDefects bound element' = [defect] := by
  cases fault with
  | noObject no_object =>
    cases element' with
    | obj members => exact absurd rfl no_object
    | _ => exact kindDefects_of_noObject no_object
  | inRuleSet fault => exact fault.ruleSetDefects_eq sound distinct

/-- An element keeps its label under a fault unless it is no object any more. -/
theorem ElementFault.isLabelOf {element element' : Json} {position : Nat} {label : Text}
    (fault : ElementFault element element' defect) (label_of : IsLabelOf position element' label)
    (object : element'.kind = .object) : IsLabelOf position element label := by
  cases fault with
  | noObject no_object => exact absurd object no_object
  | inRuleSet fault =>
    cases label_of with
    | text id => exact .text (fault.get?_id.symm.trans id)
    | other id no_text => exact .other (fault.get?_id.symm.trans id) no_text
    | absent id => exact .absent (fault.get?_id.symm.trans id)
    | noRuleSet no_object => exact absurd rfl no_object

/-! ## Documents -/

/-- Whatever single fault is made in whatever element of a valid document, the document then has one
error: the message of that fault under the label of that element. -/
theorem single_fault_single_message {bound : DepthBound} {content other : Content}
    {ruleSets : List Json} {position : Nat} {element element' : Json} {defect : Defect}
    (valid : validate bound content = .valid) (read : parse content = .ok ruleSets)
    (there : ruleSets[position]? = some element) (fault : ElementFault element element' defect)
    (read_other : parse other = .ok (ruleSets.set position element')) :
    ∃ label, IsLabelOf position element' label ∧
      (element'.kind = .object → IsLabelOf position element label) ∧
      validate bound other = .invalid [defect.message label] := by
  obtain ⟨lt, -⟩ := List.getElem?_eq_some_iff.mp there
  have label_of := isLabelOf_label position element'
  refine ⟨label (Text.ofNat position) element', label_of, fault.isLabelOf label_of, ?_⟩
  have silent : ∀ part ∈ messagesByElement bound ruleSets, part = [] := by
    rw [← List.flatten_eq_nil_iff, flatten_messagesByElement, messages_eq_nil]
    exact (validate_eq_valid_iff read).mp valid
  have sound : elementDefects bound element = [] :=
    elementDefects_eq_nil.mpr ((validate_eq_valid_iff read).mp valid _ (List.mem_of_getElem? there))
  have distinct : element'.hasDistinctKeys = true :=
    Json.hasDistinctKeys_arr.mp (hasDistinctKeys_of_parse read_other) element' (List.mem_set lt _)
  have one : elementMessages bound element' position =
      [defect.message (label (Text.ofNat position) element')] := by
    rw [elementMessages, fault.elementDefects_eq sound distinct, List.map_singleton]
  have lengths : (messagesByElement bound ruleSets).length = ruleSets.length := by
    simp [messagesByElement]
  have all : messages bound (ruleSets.set position element') =
      [defect.message (label (Text.ofNat position) element')] := by
    rw [← flatten_messagesByElement, messagesByElement_set, ← one, ← List.flatMap_id]
    exact flatMap_set silent (lengths ▸ lt) _
  rw [validate_of_ok read_other, all]
  rfl

/-- The value that a condition calls for is taken out of a leaf, in a branch in a junction. -/
theorem message_of_fault_in_branch :
    let first : Members := [("condition", .str "is_true"), ("property", .str "p")]
    let leaf : Members := [("condition", .str "equal"), ("property", .str "q"), ("value", .int 1)]
    let leaf' : Members := [("condition", .str "equal"), ("property", .str "q")]
    let branch (held : Members) : Members := [("if", .obj held)]
    let rules (held : Members) : List Json := [.obj first, .obj (branch held)]
    let tree (held : Members) : Members := [("and", .arr (rules held))]
    let ruleSet (held : Members) : Members := [("id", .str "a"), ("rule", .obj (tree held))]
    let document (held : Members) : List Json := [.obj [("rule", .obj first)], .obj (ruleSet held)]
    let content (held : Members) : Content := .value (.str (Json.arr (document held)).text)
    let defect : Defect := .missingAdditionalField "equal" "value"
    let message : Text := "a missing required additional field for equal: value"
    validate (.integer 3) (content leaf) = .valid ∧ parse (content leaf) = .ok (document leaf) ∧
      ElementFault (.obj (ruleSet leaf)) (.obj (ruleSet leaf')) defect ∧
      parse (content leaf') = .ok ((document leaf).set 1 (.obj (ruleSet leaf'))) ∧
      (∃ label, IsLabelOf 1 (.obj (ruleSet leaf')) label ∧
        (Kind.object = .object → IsLabelOf 1 (.obj (ruleSet leaf)) label) ∧
        validate (.integer 3) (content leaf') = .invalid [defect.message label]) ∧
      validate (.integer 3) (content leaf') = .invalid [message] := by
  intro first leaf leaf' branch rules tree ruleSet document content defect message
  have valid : validate (.integer 3) (content leaf) = .valid := by decide +kernel
  have read : parse (content leaf) = .ok (document leaf) := by decide +kernel
  have read_other : parse (content leaf') = .ok ((document leaf).set 1 (.obj (ruleSet leaf'))) := by
    decide +kernel
  have leaf_edited : EditedAt "value" none leaf leaf' := by
    refine ⟨rfl, ?_⟩
    intro other different
    simp [leaf, leaf', Members.get?_cons, different]
  have registered : additionalFieldsOf? "equal" = some [("value" : Text)] := by decide
  have in_leaf : RuleFault leaf leaf' defect :=
    .inLeaf rfl (.missingAdditional rfl registered (List.mem_singleton_self _) leaf_edited)
  have in_branch : RuleFault (branch leaf) (branch leaf') defect := by
    apply RuleFault.inBranch _ rfl in_leaf (Members.editedAt_put "if" _ (branch leaf))
    decide
  have found : (tree leaf).get? "and" = some (.arr (rules leaf)) := rfl
  have there : (rules leaf)[1]? = some (.obj (branch leaf)) := rfl
  have tree_edited : EditedAt "and" (some (.arr ((rules leaf).set 1 (.obj (branch leaf')))))
      (tree leaf) (tree leaf') := Members.editedAt_put "and" _ (tree leaf)
  have in_tree : RuleFault (tree leaf) (tree leaf') defect :=
    .inJunction (by decide) found there in_branch tree_edited
  have rule_edited : EditedAt "rule" (some (.obj (tree leaf'))) (ruleSet leaf) (ruleSet leaf') :=
    Members.editedAt_put "rule" _ (ruleSet leaf)
  have fault : ElementFault (.obj (ruleSet leaf)) (.obj (ruleSet leaf')) defect :=
    .inRuleSet (.inRule rfl in_tree rule_edited)
  exact ⟨valid, read, fault, read_other,
    single_fault_single_message valid read rfl fault read_other, by decide +kernel⟩

end Document

end Rulebook
