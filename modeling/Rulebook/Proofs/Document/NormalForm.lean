import Rulebook.Proofs.RuleTree.Pruning
import Rulebook.Proofs.Document.Verdict

/-!
# Normal forms

The part of a document that its verdict depends on. A rule set keeps the fields of its table, in the
order of the table. A rule that combines others keeps its combination fields, with the rules that
branches and junctions hold in normal form in their turn; what a combination field must not hold stays
as it is. Any other rule keeps its condition, its property and the fields that the condition calls
for. `normalNode_eq` says this of rules in one equation.

A look-up in a normal form finds what it finds in the value, in normal form where rules are held
(`get?_arrange`). The checks look fields up and nothing else, so none of them tells a value from its
normal form; for trees this is an induction on the rule. The order of the members, other keys and the
fields of a leaf on a combination are gone from the normal form, so they cannot matter.
-/

set_option autoImplicit false

namespace Rulebook

namespace Members

/-- The members under the given keys, in the order of the keys, with changed values. -/
def arrange (names : List Text) (change : Text → Json → Json) (members : Members) : Members :=
  names.filterMap fun name => (members.get? name).map fun value => (name, change name value)

/-- A look-up among arranged members finds the changed value, if the key is one of those kept. -/
theorem get?_arrange {names : List Text} {change : Text → Json → Json} {members : Members}
    {key : Text} :
    (members.arrange names change).get? key =
      if key ∈ names then (members.get? key).map (change key) else none := by
  unfold arrange
  induction names with
  | nil => rfl
  | cons name rest ih =>
    rw [List.filterMap_cons]
    by_cases same : key = name
    · subst same
      cases found : members.get? key with
      | none =>
        simp only [found, Option.map_none] at ih ⊢
        rw [ih]
        split <;> simp
      | some value => simp [get?_cons]
    · cases members.get? name with
      | none => simp [ih, same]
      | some value => simp [get?_cons, ih, same]

end Members

namespace RuleTree

open Document (branchNames junctionNames)

/-! ## Rules -/

/-- The combination fields by name. -/
def combinationNames : List Text := combinationFields.map Prod.fst

/-- The fields that a leaf is checked for: its condition, its property and what a registered condition
calls for. -/
def leafNames (node : Members) : List Text :=
  ruleFields.map Prod.fst ++
    match node.get? "condition" with
    | some (.str condition) => (additionalFieldsOf? condition).getD []
    | _ => []

mutual

/-- The normal form of what stands where a rule is expected; only an object is a rule. -/
def normalRule : Json → Json
  | .obj node =>
    .obj (if isCombination node then
        Members.arrange combinationNames (fun _ value => value) (normalHeld node)
      else Members.arrange (leafNames node) (fun _ value => value) node)
  | value => value

/-- The normal form of what stands where a list of rules is expected. -/
def normalJunction : Json → Json
  | .arr items => .arr (normalItems items)
  | value => value

/-- The normal forms of the items of a junction. -/
def normalItems : List Json → List Json
  | [] => []
  | item :: rest => normalRule item :: normalItems rest

/-- The members of a rule with normal forms in its combination fields. -/
def normalHeld : List (Text × Json) → List (Text × Json)
  | [] => []
  | (name, value) :: rest =>
    (name,
      if name ∈ branchNames then normalRule value
      else if name ∈ junctionNames then normalJunction value
      else value) :: normalHeld rest

end

/-- The normal form of the value of a field of a rule. -/
def normalValue (name : Text) (value : Json) : Json :=
  if name ∈ branchNames then normalRule value
  else if name ∈ junctionNames then normalJunction value
  else value

/-- A name that holds rules has their normal forms in the normal form of a node. -/
theorem get?_normalHeld {node : Members} {name : Text} :
    Members.get? (normalHeld node) name = (node.get? name).map (normalValue name) := by
  induction node with
  | nil => rfl
  | cons member rest ih =>
    obtain ⟨key, value⟩ := member
    rw [normalHeld, Members.get?_cons, Members.get?_cons, ih]
    split
    · next same =>
      rw [same]
      rfl
    · rfl

/-- The normal form of a rule. -/
def normalNode (node : Members) : Members :=
  if isCombination node then node.arrange combinationNames normalValue
  else node.arrange (leafNames node) fun _ value => value

/-- A rule in normal form is a combination of normal forms or a leaf with the fields that count. -/
theorem normalRule_obj (node : Members) : normalRule (.obj node) = .obj (normalNode node) := by
  have held : Members.arrange combinationNames (fun _ value => value) (normalHeld node) =
      node.arrange combinationNames normalValue := by
    unfold Members.arrange
    congr 1
    funext name
    rw [get?_normalHeld, Option.map_map]
    rfl
  rw [normalRule, held, normalNode]

/-- The normal form of items is that of each item. -/
theorem normalItems_eq_map (items : List Json) : normalItems items = items.map normalRule := by
  induction items with
  | nil => rfl
  | cons item rest ih => rw [normalItems, ih, List.map_cons]

/-- A rule and its normal form have one kind. -/
theorem kind_normalRule (v : Json) : (normalRule v).kind = v.kind := by
  cases v <;> rfl

/-- A value of a field and its normal form have one kind. -/
theorem kind_normalValue (name : Text) (value : Json) :
    (normalValue name value).kind = value.kind := by
  unfold normalValue
  split
  · exact kind_normalRule value
  · split
    · cases value <;> rfl
    · rfl

/-- The normal form of a combination is a combination, and that of a leaf a leaf. -/
theorem isCombination_normalNode (node : Members) :
    isCombination (normalNode node) = isCombination node := by
  have has_eq {kept : Members} (h : ∀ name ∈ combinationNames,
      (kept.get? name).isSome = (node.get? name).isSome) : isCombination kept = isCombination node := by
    unfold isCombination
    rw [Bool.eq_iff_iff, List.any_eq_true, List.any_eq_true]
    refine exists_congr fun field => and_congr_right fun mem => ?_
    exact Bool.eq_iff_iff.mp (h field.1 (List.mem_map_of_mem mem))
  unfold normalNode
  split
  · apply has_eq
    intro name mem
    rw [Members.get?_arrange, if_pos mem, Option.isSome_map]
  · next single =>
    apply has_eq
    intro name mem
    -- No combination field is there to be kept.
    have absent : node.get? name = none := by
      obtain ⟨field, listed, rfl⟩ := List.mem_map.mp mem
      rw [isCombination, List.any_eq_true, not_exists] at single
      have missing : ¬ node.has field.1 = true := fun present => single field ⟨listed, present⟩
      exact Members.has_eq_false_iff.mp (Bool.eq_false_iff.mpr missing)
    rw [Members.get?_arrange, absent]
    simp

/-- A combination field of a rule in normal form holds normal forms. -/
theorem heldIn_normalNode {node : Members} (combines : isCombination node = true) {name : Text}
    {spec : FieldSpec} (field : (name, spec) ∈ combinationFields) :
    heldIn name spec (normalNode node) = (heldIn name spec node).map normalRule := by
  have sorts : ∀ entry ∈ combinationFields,
      (entry.1 ∈ branchNames ∧ entry.2.kinds = [.object]) ∨
        (entry.1 ∉ branchNames ∧ entry.1 ∈ junctionNames ∧ entry.2.kinds = [.array]) := by decide
  have kept : name ∈ combinationNames := List.mem_map_of_mem field
  have found : (normalNode node).get? name = (node.get? name).map (normalValue name) := by
    rw [normalNode, if_pos combines, Members.get?_arrange, if_pos kept]
  unfold heldIn
  rw [found]
  cases node.get? name with
  | none => rfl
  | some value =>
    rw [Option.map_some]
    dsimp only
    rw [kind_normalValue]
    rcases sorts _ field with ⟨branch, kinds⟩ | ⟨other, junction, kinds⟩
    · dsimp only at branch kinds
      rw [normalValue, if_pos branch, kinds]
      cases value with
      | obj child => simp [normalRule_obj, kindDefects, Json.kind, heldRules]
      | _ => rfl
    · dsimp only at other junction kinds
      rw [normalValue, if_neg other, if_pos junction, kinds]
      cases value with
      | arr items => rw [normalJunction, normalItems_eq_map]; rfl
      | _ => rfl

/-! ## Leaves -/

/-- The condition of a leaf is checked alike on objects that agree on the fields of the leaf. -/
theorem conditionDefects_congr {node other : Members}
    (h : ∀ name ∈ leafNames node, other.get? name = node.get? name) :
    conditionDefects other = conditionDefects node := by
  unfold conditionDefects
  rw [h "condition" (by simp [leafNames, ruleFields])]
  cases found : node.get? "condition" with
  | none => rfl
  | some value =>
    cases value with
    | str condition =>
      dsimp only
      cases registered : additionalFieldsOf? condition with
      | none => rfl
      | some fields =>
        apply List.flatMap_congr
        intro field mem
        unfold additionalDefects
        rw [h field (by simp [leafNames, found, registered, mem])]
    | _ => rfl

/-- A leaf is checked alike on objects that agree on its fields. -/
theorem leafParts_congr {node other : Members}
    (h : ∀ name ∈ leafNames node, other.get? name = node.get? name) :
    leafParts other = leafParts node := by
  unfold leafParts
  apply List.map_congr_left
  rintro ⟨name, spec⟩ field
  have listed : name ∈ leafNames node :=
    List.mem_append_left _ (List.mem_map_of_mem field)
  have same_check : shallowCheck other = shallowCheck node := by
    funext check value
    cases check with
    | condition => exact conditionDefects_congr h
    | _ => rfl
  dsimp only
  unfold fieldDefects
  rw [h name listed, same_check]

/-! ## Trees -/

/-- The recursion reports the same on a rule and on its normal form. -/
theorem ruleDefects_normalNode (bound : DepthBound) (depth : Nat) (node : Members) :
    ruleDefects bound depth (normalNode node) = ruleDefects bound depth node := by
  induction node using node_induction generalizing depth with
  | step node ih =>
    by_cases within : bound.Admits depth
    · rw [ruleDefects_of_admits within, ruleDefects_of_admits within, isCombination_normalNode]
      split
      -- What is dropped from a combination has no part in its defects, and the rules it holds are
      -- their own normal forms one level deeper.
      · next combines =>
        apply List.flatMap_congr
        rintro ⟨name, spec⟩ field
        have kept : name ∈ combinationNames := List.mem_map_of_mem field
        have same_value : valueDefects name spec (normalNode node) = valueDefects name spec node := by
          unfold valueDefects
          rw [normalNode, if_pos combines, Members.get?_arrange, if_pos kept]
          cases node.get? name with
          | none => rfl
          | some value => simp [kind_normalValue]
        rw [combinationDefects_eq, combinationDefects_eq, same_value,
          heldIn_normalNode combines field, List.flatMap_map]
        congr 1
        apply List.flatMap_congr
        intro held mem
        cases held with
        | obj child =>
          rw [normalRule_obj]
          exact ih child (mem_children.mpr ⟨name, spec, field, mem⟩) (depth + 1)
        | _ => rfl
      · next single =>
        rw [normalNode, if_neg single]
        congr 1
        apply leafParts_congr
        intro name listed
        rw [Members.get?_arrange, if_pos listed]
        simp
    · rw [ruleDefects_of_not_admits within, ruleDefects_of_not_admits within]

/-- A rule and its normal form have the same defects. -/
theorem defects_normalRule (bound : DepthBound) (v : Json) :
    defects bound (normalRule v) = defects bound v := by
  cases v with
  | obj node =>
    rw [normalRule_obj, defects, defects, nodeDefects_eq_keepFirst, nodeDefects_eq_keepFirst,
      ruleDefects_normalNode]
  | _ => rfl

end RuleTree

namespace Document

/-! ## Documents -/

/-- The normal form of a field of a rule set. -/
def normalField (name : Text) (value : Json) : Json :=
  if name = "rule" then RuleTree.normalRule value else value

/-- The normal form of an element: a rule set keeps the fields of its table, with its rule in normal
form. -/
def normalForm : Json → Json
  | .obj ruleSet => .obj (Members.arrange (mainFields.map Prod.fst) normalField ruleSet)
  | value => value

/-- A field of a rule set has a value of the same kind in the normal form. -/
theorem kind_normalField (name : Text) (value : Json) :
    (normalField name value).kind = value.kind := by
  unfold normalField
  split
  · exact RuleTree.kind_normalRule value
  · rfl

/-- An element and its normal form have the same defects. -/
theorem elementDefects_normalForm (bound : DepthBound) (element : Json) :
    elementDefects bound (normalForm element) = elementDefects bound element := by
  cases element with
  | obj ruleSet =>
    rw [normalForm, elementDefects, elementDefects, ruleSetDefects, ruleSetDefects]
    apply List.flatMap_congr
    rintro ⟨name, spec⟩ field
    -- The rule is the only field that the normal form changes and the only one with a tree.
    have checks : ∀ entry ∈ mainFields, entry.2.check ≠ .condition ∧
        (entry.1 = "rule" ↔ entry.2.check = .ruleTree) := by decide
    obtain ⟨no_condition, is_rule⟩ := checks _ field
    dsimp only at no_condition is_rule ⊢
    unfold fieldDefects Rulebook.fieldDefects
    rw [Members.get?_arrange, if_pos (List.mem_map_of_mem field)]
    cases Members.get? ruleSet name with
    | none => rfl
    | some value =>
      have same_check (container : Members) : nestedCheck bound container spec.check
          (normalField name value) = nestedCheck bound ruleSet spec.check value := by
        by_cases rule : name = "rule"
        · rw [normalField, if_pos rule, is_rule.mp rule]
          exact RuleTree.defects_normalRule bound value
        · have no_tree := mt is_rule.mpr rule
          rw [normalField, if_neg rule]
          cases check : spec.check with
          | ruleTree => exact absurd check no_tree
          | condition => exact absurd check no_condition
          | _ => rfl
      rw [Option.map_some]
      dsimp only
      rw [kind_normalField, same_check]
  | _ => rfl

/-- An element and its normal form have the same label. -/
theorem label_normalForm (position : Text) (element : Json) :
    label position (normalForm element) = label position element := by
  cases element with
  | obj ruleSet =>
    have listed : ("id" : Text) ∈ mainFields.map Prod.fst := by decide
    have unchanged : normalField "id" = id := funext fun value => if_neg (by decide)
    rw [normalForm, label, label, Members.get?_arrange, if_pos listed, unchanged, Option.map_id]
    rfl
  | _ => rfl

/-- Elements and their normal forms have the same messages. -/
theorem messages_map_normalForm (bound : DepthBound) (ruleSets : List Json) :
    messages bound (ruleSets.map normalForm) = messages bound ruleSets := by
  rw [messages, messages, List.zipIdx_map, List.flatMap_map]
  apply List.flatMap_congr
  rintro ⟨element, position⟩ -
  simp only [Prod.map, id, elementMessages, elementDefects_normalForm, label_normalForm]

/-- The messages of a document are those of its normal form, under every bound. So two documents that
have the same normal form get the same verdict, whatever else they hold and in whatever order. -/
theorem verdict_depends_on_normalForm :
    (∀ bound ruleSets, messages bound (ruleSets.map normalForm) = messages bound ruleSets) ∧
    (∀ ruleSets others : List Json, ruleSets.map normalForm = others.map normalForm →
      ∀ bound, messages bound ruleSets = messages bound others) ∧
    (∀ content other ruleSets others, parse content = .ok ruleSets → parse other = .ok others →
      ruleSets.map normalForm = others.map normalForm →
      ∀ bound, validate bound content = validate bound other) := by
  have alike {ruleSets others : List Json}
      (same : ruleSets.map normalForm = others.map normalForm) (bound : DepthBound) :
      messages bound ruleSets = messages bound others := by
    rw [← messages_map_normalForm, same, messages_map_normalForm]
  refine ⟨messages_map_normalForm, fun ruleSets others same bound => alike same bound, ?_⟩
  intro content other ruleSets others read read' same bound
  rw [validate_of_ok read, validate_of_ok read', alike same]

/-- A junction that also names a condition, with an unknown key beside it, and the junction alone. -/
theorem verdict_of_junction_and_condition :
    let source : Content := .value (.str ("[\x7b\"x\":0,\"rule\":\x7b\"condition\":\"c\"," ++
      "\"and\":[5,\x7b\"z\":1,\"property\":\"p\"\x7d]\x7d\x7d]"))
    let other : Content := .value (.str
      "[\x7b\"rule\":\x7b\"and\":[5,\x7b\"property\":\"p\"\x7d]\x7d\x7d]")
    let leaf : Members := [("property", .str "p")]
    let ruleSet : Json := .obj [("x", .int 0), ("rule", .obj [("condition", .str "c"),
      ("and", .arr [.int 5, .obj (("z", .int 1) :: leaf)])])]
    let core : Json := .obj [("rule", .obj [("and", .arr [.int 5, .obj leaf])])]
    parse source = .ok [ruleSet] ∧ parse other = .ok [core] ∧
      [ruleSet].map normalForm = [core].map normalForm ∧
      validate (.integer 2) source = validate (.integer 2) other ∧
      (validate (.integer 2) other).errors = ([
        "Rule #0: Type for field and, was expected to be object, not number",
        "Rule #0 missing required field: condition"] : List Text) := by
  intro source other leaf ruleSet core
  have read : parse source = .ok [ruleSet] := by decide +kernel
  have read_other : parse other = .ok [core] := by decide +kernel
  have same : [ruleSet].map normalForm = [core].map normalForm := by decide +kernel
  exact ⟨read, read_other, same,
    verdict_depends_on_normalForm.2.2 source other _ _ read read_other same (.integer 2),
    by decide +kernel⟩

end Document

end Rulebook
