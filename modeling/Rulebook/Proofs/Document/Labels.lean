import Rulebook.Proofs.Document.Bounds
import Rulebook.Proofs.Document.Context

/-!
# Labels

A message is the label of its rule set with a suffix behind it. `IsSuffix` lists what a suffix may be,
shape by shape, with what may stand in each of its places; no shape has a place for a label. Each check
keeps to the shapes, and for trees this is an induction on the rule: what a walk reports is reported by
the recursion, and the recursion adds nothing of its own but the depth.

All this is said of checks that are handed the label as they go down and could do anything with it: they
give the messages too (`Context.checkElement_eq`).

Elements do not see each other either. `messagesByElement` keeps their messages apart, so another
element in one place changes the messages of that place and no others; where only the text of an
identifier is another one, the suffixes of that place stay as they are.
-/

set_option autoImplicit false

namespace Rulebook

namespace Document

open RuleTree

/-! ## Suffixes -/

/-- The kinds that a message says were expected of a field: those declared in a table, or an object where
an element, an action or a rule of a junction stands. -/
inductive Expects : Text → List Kind → Prop where
  | declared {table : FieldTable} {field : Text} {spec : FieldSpec}
      (listed : table ∈ fieldTables.map Prod.snd) (mem : (field, spec) ∈ table) :
      Expects field spec.kinds
  | element : Expects "rule set" [.object]
  | action : Expects "actions" [.object]
  | joined {field : Text} (junction : field ∈ junctionNames) : Expects field [.object]

/-- What may stand behind a label. -/
inductive IsSuffix (bound : DepthBound) : Text → Prop where
  | missingField {field : Text} {spec : FieldSpec} (mem : (field, spec) ∈ mainFields ++ ruleFields)
      (required : spec.required = true) :
      IsSuffix bound (" missing required field: " ++ field)
  | wrongKind {field : Text} {expected : List Kind} {value : Json} (expects : Expects field expected)
      (other : value.kind ∉ expected) :
      IsSuffix bound (": Type for field " ++ field ++ ", was expected to be " ++
        Text.join " or " (expected.map Kind.name) ++ ", not " ++ value.kind.name)
  | unknownCondition {condition : Text} (unregistered : additionalFieldsOf? condition = none) :
      IsSuffix bound (" does not have valid condition specified: " ++ condition)
  | missingAdditionalField {condition field : Text} {fields : List Text}
      (registered : additionalFieldsOf? condition = some fields) (mem : field ∈ fields) :
      IsSuffix bound (" missing required additional field for " ++ condition ++ ": " ++ field)
  | unknownAction {key : Text} (unknown : ∀ spec, (key, spec) ∉ actionFields) :
      IsSuffix bound (" invalid action specified: " ++ key)
  | tooDeep : IsSuffix bound (" rule nested too deeply: exceeds maximum depth of " ++ bound.text)

variable {bound : DepthBound} {defect : Defect}

/-- The defects of a kind have suffixes of one of the shapes if the kinds are those the field expects. -/
theorem isSuffix_of_mem_kindDefects {field : Text} {expected : List Kind} {value : Json}
    (expects : Expects field expected) (mem : defect ∈ kindDefects field expected value.kind) :
    IsSuffix bound defect.detail := by
  unfold kindDefects at mem
  split at mem
  · simp at mem
  · next misfit =>
    rw [List.mem_singleton.mp mem]
    apply IsSuffix.wrongKind expects
    intro declared
    exact misfit (Or.inr declared)

/-- The defects of a field of a rule set or of a leaf keep to the shapes if those of its nested check do;
the check only runs on a value of a declared kind. -/
theorem isSuffix_of_mem_fieldDefects {nested : NestedCheck → Json → List Defect} {field : Text}
    {spec : FieldSpec} {container : Members} (listed : (field, spec) ∈ mainFields ++ ruleFields)
    (inner : ∀ value, container.get? field = some value → value.kind ∈ spec.kinds →
      ∀ d ∈ nested spec.check value, IsSuffix bound d.detail)
    (mem : defect ∈ Rulebook.fieldDefects nested field spec container) :
    IsSuffix bound defect.detail := by
  have declared : ∀ entry ∈ mainFields ++ ruleFields, entry.2.kinds ≠ [] := by decide
  have expects : Expects field spec.kinds := by
    rcases List.mem_append.mp listed with main | leaf
    · exact .declared (by simp [fieldTables]) main
    · exact .declared (by simp [fieldTables]) leaf
  unfold Rulebook.fieldDefects at mem
  cases found : container.get? field with
  | none =>
    simp only [found] at mem
    split at mem
    · next required =>
      rw [List.mem_singleton.mp mem]
      exact .missingField listed required
    · simp at mem
  | some value =>
    simp only [found] at mem
    split at mem
    · next fits =>
      apply inner value found _ defect mem
      rw [kindDefects_eq_nil] at fits
      exact fits.resolve_left (declared _ listed)
    · exact isSuffix_of_mem_kindDefects expects mem

/-- The condition is checked once it is known to be a text, so an unknown one is a text. -/
theorem isSuffix_of_mem_conditionDefects {node : Members} {value : Json}
    (found : node.get? "condition" = some value) (text : value.kind = .string)
    (mem : defect ∈ conditionDefects node) : IsSuffix bound defect.detail := by
  have listed : ∀ entry ∈ conditions, ∀ field ∈ entry.2,
      (field, additionalSpec field) ∈ additionalFields := by decide
  obtain ⟨condition, rfl⟩ := Json.kind_eq_string.mp text
  unfold conditionDefects at mem
  simp only [found] at mem
  cases registered : additionalFieldsOf? condition with
  | none =>
    simp only [registered, List.mem_singleton] at mem
    rw [mem]
    exact .unknownCondition registered
  | some fields =>
    simp only [registered] at mem
    obtain ⟨field, called, mem⟩ := List.mem_flatMap.mp mem
    unfold additionalDefects at mem
    dsimp only at mem
    split at mem
    · split at mem
      · rw [List.mem_singleton.mp mem]
        exact .missingAdditionalField registered called
      · simp at mem
    · apply isSuffix_of_mem_kindDefects _ mem
      have table : additionalFields ∈ fieldTables.map Prod.snd := by simp [fieldTables]
      exact .declared table (listed _ (mem_of_lookup registered) field called)

/-- The defects of a leaf have suffixes of one of the shapes. -/
theorem isSuffix_of_mem_leafParts {node : Members} (mem : defect ∈ (leafParts node).flatten) :
    IsSuffix bound defect.detail := by
  obtain ⟨part, listed, mem⟩ := List.mem_flatten.mp mem
  obtain ⟨⟨field, spec⟩, declared, rfl⟩ := List.mem_map.mp listed
  apply isSuffix_of_mem_fieldDefects (List.mem_append_right _ declared) _ mem
  intro value found kind d reported
  simp only [ruleFields, List.mem_cons, Prod.mk.injEq, List.not_mem_nil, or_false] at declared
  rcases declared with ⟨rfl, rfl⟩ | ⟨rfl, rfl⟩
  · exact isSuffix_of_mem_conditionDefects found (List.mem_singleton.mp kind) reported
  · simp [shallowCheck] at reported

/-- A combination field reports the kind of its value, the kind of what is no rule in a junction, or what
is wrong with a rule that it holds. -/
theorem isSuffix_of_mem_combinationDefects {rule : Members → List Defect} {name : Text}
    {spec : FieldSpec} {node : Members} (field : (name, spec) ∈ combinationFields)
    (inner : ∀ child ∈ children node, ∀ d ∈ rule child, IsSuffix bound d.detail)
    (mem : defect ∈ combinationDefects rule name spec node) : IsSuffix bound defect.detail := by
  have declared : Expects name spec.kinds := .declared (by simp [fieldTables]) field
  have object : Expects name [.object] := by
    have sorts : ∀ entry ∈ combinationFields,
        entry.1 ∈ junctionNames ∨ entry.2.kinds = [.object] := by decide
    rcases sorts _ field with junction | kinds
    · exact .joined junction
    · exact kinds ▸ declared
  rw [combinationDefects_eq] at mem
  rcases List.mem_append.mp mem with whole | part
  · unfold valueDefects at whole
    split at whole
    · simp at whole
    · exact isSuffix_of_mem_kindDefects declared whole
  · obtain ⟨held, there, reported⟩ := List.mem_flatMap.mp part
    cases held with
    | obj child => exact inner child (mem_children.mpr ⟨name, spec, field, there⟩) _ reported
    | _ => exact isSuffix_of_mem_kindDefects object reported

/-- The defects of a rule, at any depth, have suffixes of one of the shapes. -/
theorem isSuffix_of_mem_ruleDefects {depth : Nat} {node : Members}
    (mem : defect ∈ ruleDefects bound depth node) : IsSuffix bound defect.detail := by
  -- At every depth, because a child is checked one level further down.
  induction node using node_induction generalizing depth defect with
  | step node ih =>
    by_cases within : bound.Admits depth
    · rw [ruleDefects_of_admits within] at mem
      split at mem
      · obtain ⟨⟨name, spec⟩, field, mem⟩ := List.mem_flatMap.mp mem
        apply isSuffix_of_mem_combinationDefects field _ mem
        intro child combined d reported
        exact ih child combined reported
      · exact isSuffix_of_mem_leafParts mem
    · rw [ruleDefects_of_not_admits within] at mem
      rw [List.mem_singleton.mp mem]
      exact .tooDeep

/-- The defects of actions have suffixes of one of the shapes. -/
theorem isSuffix_of_mem_actionsDefects {actions : Json} (mem : defect ∈ actionsDefects actions) :
    IsSuffix bound defect.detail := by
  obtain ⟨action, -, mem⟩ := List.mem_flatMap.mp mem
  cases action with
  | obj members =>
    obtain ⟨⟨key, value⟩, -, mem⟩ := List.mem_flatMap.mp mem
    dsimp only at mem
    unfold actionKeyDefects at mem
    split at mem
    · next unknown =>
      rw [List.mem_singleton.mp mem]
      apply IsSuffix.unknownAction
      intro spec known
      simp [lookup_of_mem nodup_actionFields known] at unknown
    · next spec known =>
      apply isSuffix_of_mem_kindDefects _ mem
      exact .declared (by simp [fieldTables]) (mem_of_lookup known)
  | _ => exact isSuffix_of_mem_kindDefects .action mem

/-- Every defect of a rule set is worded in one of the shapes. -/
theorem isSuffix_of_mem_ruleSetDefects {ruleSet : Members}
    (mem : defect ∈ ruleSetDefects bound ruleSet) : IsSuffix bound defect.detail := by
  obtain ⟨⟨field, spec⟩, declared, mem⟩ := List.mem_flatMap.mp mem
  apply isSuffix_of_mem_fieldDefects (List.mem_append_left _ declared) _ mem
  intro value found kind d reported
  obtain ⟨-, no_condition, object, -⟩ := declared_of_mainField declared
  cases check : spec.check with
  | none => simp [check, nestedCheck, shallowCheck] at reported
  | condition => exact absurd check no_condition
  | actions =>
    rw [check] at reported
    exact isSuffix_of_mem_actionsDefects reported
  | ruleTree =>
    rw [object check] at kind
    obtain ⟨node, rfl⟩ := Json.kind_eq_object.mp (List.mem_singleton.mp kind)
    rw [check] at reported
    have walked : d ∈ nodeDefects bound node := reported
    rw [nodeDefects_eq_keepFirst] at walked
    exact isSuffix_of_mem_ruleDefects (mem_of_mem_keepFirst walked)

/-- The defects of an element have suffixes of one of the shapes. -/
theorem isSuffix_of_mem_elementDefects {element : Json}
    (mem : defect ∈ elementDefects bound element) : IsSuffix bound defect.detail := by
  cases element with
  | obj ruleSet => exact isSuffix_of_mem_ruleSetDefects mem
  | _ => exact isSuffix_of_mem_kindDefects .element mem

/-! ## Labels of elements -/

/-- The label of an element at a position: its identifier, as it is if it is a text and as JSON text
otherwise, or its position. -/
inductive IsLabelOf (position : Nat) : Json → Text → Prop where
  | text {ruleSet : Members} {t : Text} (id : ruleSet.get? "id" = some (.str t)) :
      IsLabelOf position (.obj ruleSet) t
  | other {ruleSet : Members} {value : Json} (id : ruleSet.get? "id" = some value)
      (no_text : value.kind ≠ .string) : IsLabelOf position (.obj ruleSet) value.text
  | absent {ruleSet : Members} (id : ruleSet.get? "id" = none) :
      IsLabelOf position (.obj ruleSet) ("Rule #" ++ Text.ofNat position)
  | noRuleSet {value : Json} (no_object : value.kind ≠ .object) :
      IsLabelOf position value ("Rule #" ++ Text.ofNat position)

/-- The label that the messages of an element begin with is its label. -/
theorem isLabelOf_label (position : Nat) (element : Json) :
    IsLabelOf position element (label (Text.ofNat position) element) := by
  cases element with
  | obj ruleSet =>
    cases id : Members.get? ruleSet "id" with
    | none =>
      simp only [label, id]
      exact .absent id
    | some value =>
      cases value with
      | str t =>
        simp only [label, id]
        exact .text id
      | _ =>
        simp only [label, id]
        exact .other id (by simp [Json.kind])
  | _ => exact .noRuleSet (by simp [Json.kind])

/-- The messages of a document, those of each element by themselves. -/
def messagesByElement (bound : DepthBound) (ruleSets : List Json) : List (List Text) :=
  ruleSets.zipIdx.map fun (element, position) => elementMessages bound element position

/-- The messages of a document are those of its elements one after another. -/
theorem flatten_messagesByElement (bound : DepthBound) (ruleSets : List Json) :
    (messagesByElement bound ruleSets).flatten = messages bound ruleSets := by
  rw [messagesByElement, messages, List.flatMap_def]

/-- At each position stand the messages of the element there. -/
theorem getElem?_messagesByElement (bound : DepthBound) (ruleSets : List Json) (position : Nat) :
    (messagesByElement bound ruleSets)[position]? =
      ruleSets[position]?.map fun element => elementMessages bound element position := by
  simp only [messagesByElement, List.getElem?_map, List.getElem?_zipIdx, Option.map_map]
  congr 1
  funext element
  simp

/-- Another element in one place has its own messages there, and no others change. -/
theorem messagesByElement_set (bound : DepthBound) (ruleSets : List Json) (position : Nat)
    (element : Json) :
    messagesByElement bound (ruleSets.set position element) =
      (messagesByElement bound ruleSets).set position (elementMessages bound element position) := by
  apply List.ext_getElem?
  intro place
  have lengths : (messagesByElement bound ruleSets).length = ruleSets.length := by
    simp [messagesByElement]
  rw [getElem?_messagesByElement, List.getElem?_set, List.getElem?_set,
    getElem?_messagesByElement, lengths]
  by_cases same : position = place
  · subst same
    simp only [if_true]
    split <;> simp
  · simp only [if_neg same]

/-- A message of an element is its label and the detail of a defect. -/
theorem elementMessages_eq_map (bound : DepthBound) (element : Json) (position : Nat) :
    elementMessages bound element position =
      ((elementDefects bound element).map Defect.detail).map
        (label (Text.ofNat position) element ++ ·) := by
  rw [elementMessages, List.map_map]
  rfl

/-! ## Identifiers -/

/-- The checks of the fields of a rule set do not look at the other fields. -/
theorem nestedCheck_of_mainField {name : Text} {spec : FieldSpec} (field : (name, spec) ∈ mainFields)
    (container other : Members) :
    nestedCheck bound container spec.check = nestedCheck bound other spec.check := by
  obtain ⟨-, no_condition, -⟩ := declared_of_mainField field
  funext value
  cases check : spec.check with
  | condition => exact absurd check no_condition
  | _ => rfl

/-- No check reads the text of an identifier. -/
theorem ruleSetDefects_put_id {ruleSet : Members} {t : Text}
    (id : ruleSet.get? "id" = some (.str t)) (other : Text) :
    ruleSetDefects bound (Members.put "id" (.str other) ruleSet) = ruleSetDefects bound ruleSet := by
  unfold ruleSetDefects
  apply List.flatMap_congr
  rintro ⟨name, spec⟩ field
  have free : ∀ entry ∈ mainFields, entry.1 = "id" → entry.2.check = .none := by decide
  have same_check : nestedCheck bound (Members.put "id" (.str other) ruleSet) spec.check =
      nestedCheck bound ruleSet spec.check := nestedCheck_of_mainField field _ _
  dsimp only
  unfold fieldDefects Rulebook.fieldDefects
  rw [Members.get?_put, same_check]
  by_cases named : name = "id"
  · subst named
    have unchecked (value : Json) : nestedCheck bound ruleSet spec.check value = [] := by
      rw [free _ field rfl]
      rfl
    simp only [if_true, id, unchecked, Json.kind]
  · simp only [if_neg named]

/-- A verdict on messages has them as its errors. -/
theorem errors_ofMessages (messages : List Text) : (Verdict.ofMessages messages).errors = messages := by
  cases messages <;> rfl

/-- The errors of a document that can be read are its messages. -/
theorem errors_validate {content : Content} {ruleSets : List Json}
    (read : parse content = .ok ruleSets) :
    (validate bound content).errors = messages bound ruleSets := by
  rw [validate_of_ok read, errors_ofMessages]

/-- A rule set has the messages that the checks with its label give. Under any two labels these are as
many, place by place the label and the same suffix of one of the shapes. The errors of a document are
those of its elements one after another, and each of them is the label of its element and a suffix.
Another text as the identifier of an element stands in front of the same suffixes, and what the other
elements have does not change. -/
theorem labels_are_prefixes (bound : DepthBound) :
    (∀ label ruleSet,
      ({ label, bound } : Context).checkRuleSet ruleSet = ruleSetMessages label bound ruleSet) ∧
    (∀ ruleSet a b, List.Forall₂ (fun x y => ∃ s, IsSuffix bound s ∧ x = a ++ s ∧ y = b ++ s)
      (ruleSetMessages a bound ruleSet) (ruleSetMessages b bound ruleSet)) ∧
    (∀ content ruleSets, parse content = .ok ruleSets →
      (validate bound content).errors = (messagesByElement bound ruleSets).flatten ∧
      (messagesByElement bound ruleSets).length = ruleSets.length ∧
      ∀ position element, ruleSets[position]? = some element →
        ∃ (label : Text) (suffixes : List Text),
          IsLabelOf position element label ∧ (∀ s ∈ suffixes, IsSuffix bound s) ∧
          ({ label, bound } : Context).checkElement element = suffixes.map (label ++ ·) ∧
          (messagesByElement bound ruleSets)[position]? = some (suffixes.map (label ++ ·))) ∧
    (∀ content other ruleSets position ruleSet t t', parse content = .ok ruleSets →
      ruleSets[position]? = some (.obj ruleSet) → ruleSet.get? "id" = some (.str t) →
      parse other = .ok (ruleSets.set position (.obj (Members.put "id" (.str t') ruleSet))) →
      ∃ suffixes : List Text,
        (messagesByElement bound ruleSets)[position]? = some (suffixes.map (t ++ ·)) ∧
        (validate bound other).errors =
          ((messagesByElement bound ruleSets).set position (suffixes.map (t' ++ ·))).flatten) := by
  refine ⟨?_, ?_, ?_, ?_⟩
  · intro label ruleSet
    exact Context.checkRuleSet_eq ruleSet
  · intro ruleSet a b
    rw [ruleSetMessages, ruleSetMessages, List.forall₂_map_left_iff, List.forall₂_map_right_iff,
      List.forall₂_same]
    intro defect mem
    exact ⟨defect.detail, isSuffix_of_mem_ruleSetDefects mem, rfl, rfl⟩
  · intro content ruleSets read
    refine ⟨?_, by simp [messagesByElement], ?_⟩
    · rw [errors_validate read, flatten_messagesByElement]
    · intro position element there
      refine ⟨label (Text.ofNat position) element, (elementDefects bound element).map Defect.detail,
        isLabelOf_label position element, ?_, ?_, ?_⟩
      · intro s mem
        obtain ⟨defect, reported, rfl⟩ := List.mem_map.mp mem
        exact isSuffix_of_mem_elementDefects reported
      · rw [Context.checkElement_eq, List.map_map]
        rfl
      · rw [getElem?_messagesByElement, there, Option.map_some, elementMessages_eq_map]
  · intro content other ruleSets position ruleSet t t' read there id read_other
    have renamed : (Members.put "id" (.str t') ruleSet).get? "id" = some (.str t') := by
      rw [Members.get?_put, if_pos rfl]
    -- No defect of a rule set is about its identifier, so both elements have the same suffixes.
    refine ⟨(ruleSetDefects bound ruleSet).map Defect.detail, ?_, ?_⟩
    · rw [getElem?_messagesByElement, there, Option.map_some, elementMessages_eq_map]
      simp only [elementDefects, label, id]
    · rw [errors_validate read_other, ← flatten_messagesByElement, messagesByElement_set,
        elementMessages_eq_map]
      simp only [elementDefects, ruleSetDefects_put_id id, label, renamed]

/-- Two rule sets without a rule, the first of them under the names `a` and `b`. -/
theorem labels_of_renamed_element :
    let ruleSet : Members := [("id", .str "a"), ("description", .int 1)]
    let renamed : Members := Members.put "id" (.str "b") ruleSet
    let ruleSets : List Json := [.obj ruleSet, .obj []]
    let content : Content :=
      .value (.str "[\x7b\"id\":\"a\",\"description\":1\x7d,\x7b\x7d]")
    let other : Content :=
      .value (.str "[\x7b\"id\":\"b\",\"description\":1\x7d,\x7b\x7d]")
    let kind : Text := ": Type for field description, was expected to be string, not number"
    let missing : Text := " missing required field: rule"
    parse content = .ok ruleSets ∧ ruleSets[0]? = some (.obj ruleSet) ∧
      ruleSet.get? "id" = some (.str "a") ∧ parse other = .ok (ruleSets.set 0 (.obj renamed)) ∧
      (validate (.integer 1) content).errors =
        (messagesByElement (.integer 1) ruleSets).flatten ∧
      messagesByElement (.integer 1) ruleSets =
        ([["a" ++ kind, "a" ++ missing], ["Rule #1" ++ missing]] : List (List Text)) ∧
      ∃ suffixes : List Text,
        (messagesByElement (.integer 1) ruleSets)[0]? = some (suffixes.map (("a" : Text) ++ ·)) ∧
        (validate (.integer 1) other).errors =
          ((messagesByElement (.integer 1) ruleSets).set 0
            (suffixes.map (("b" : Text) ++ ·))).flatten := by
  intro ruleSet renamed ruleSets content other kind missing
  have read : parse content = .ok ruleSets := by decide +kernel
  have id : ruleSet.get? "id" = some (.str "a") := by decide
  have read_other : parse other = .ok (ruleSets.set 0 (.obj renamed)) := by decide +kernel
  obtain ⟨-, -, apart, renamed_id⟩ := labels_are_prefixes (.integer 1)
  exact ⟨read, rfl, id, read_other, (apart content ruleSets read).1, by decide +kernel,
    renamed_id content other ruleSets 0 ruleSet "a" "b" read rfl id read_other⟩

end Document

end Rulebook
