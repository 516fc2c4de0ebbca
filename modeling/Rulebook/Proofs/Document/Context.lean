import Rulebook.Document
import Mathlib

/-!
# Checks that know their label

A check may also be handed the label of the rule set, as part of a context, and word each message where it
finds the fault. Such checks are written down here, from the kind of a value up to an element of a document,
with a walk of their own whose work already holds messages.

It is a ladder. Each check comes to the defects that the check without a label finds, worded under the
label, and it does so because the checks that it calls do. For the walk this is one step of it and then an
induction on the number of steps: both walks go the same way at the same time. `checkElement_eq` is the top.
-/

set_option autoImplicit false

namespace Rulebook

/-- What a check is told besides the value: the label in front of its messages, and the bound on rules. -/
structure Context where
  label : Text
  bound : DepthBound

namespace Context

variable (ctx : Context)

/-! ## Fields -/

/-- Checks the kind of a field's value. -/
def checkKind (field : Text) (expected : List Kind) (actual : Kind) : List Text :=
  if expected = [] ∨ actual ∈ expected then []
  else
    [ctx.label ++ ": Type for field " ++ field ++ ", was expected to be " ++
      Text.join " or " (expected.map Kind.name) ++ ", not " ++ actual.name]

/-- Checks a field of an object, the nested check being given. -/
def checkField (nested : NestedCheck → Json → List Text) (name : Text) (spec : FieldSpec)
    (container : Members) : List Text :=
  match container.get? name with
  | none => if spec.required then [ctx.label ++ " missing required field: " ++ name] else []
  | some value =>
    match ctx.checkKind name spec.kinds value.kind with
    | [] => nested spec.check value
    | errors => errors

/-! ## Leaves and actions -/

/-- Checks a field that a condition calls for. -/
def checkAdditional (condition : Text) (node : Members) (field : Text) : List Text :=
  let spec := additionalSpec field
  if !node.has field && spec.required then
    [ctx.label ++ " missing required additional field for " ++ condition ++ ": " ++ field]
  else ctx.checkField (fun _ _ => []) field spec node

/-- Checks the condition of a leaf and the fields that it calls for. -/
def checkCondition (node : Members) : List Text :=
  let unknown (condition : Json) : List Text :=
    [ctx.label ++ " does not have valid condition specified: " ++ condition.shown]
  match node.get? "condition" with
  | some (.str condition) =>
    match additionalFieldsOf? condition with
    | some fields => fields.flatMap (ctx.checkAdditional condition node)
    | none => unknown (.str condition)
  | some value => unknown value
  | none => unknown .null

/-- Checks one key of an action. -/
def checkActionKey (key : Text) (value : Json) : List Text :=
  match actionFields.lookup key with
  | none => [ctx.label ++ " invalid action specified: " ++ key]
  | some spec => ctx.checkKind key spec.kinds value.kind

/-- Checks one action. -/
def checkAction : Json → List Text
  | .obj members => members.flatMap fun member => ctx.checkActionKey member.1 member.2
  | value => ctx.checkKind "actions" [.object] value.kind

/-- Checks actions. -/
def checkActions (actions : Json) : List Text :=
  ((actionParts? actions).getD []).flatMap ctx.checkAction

/-- The nested checks that need no bound, for a value in a given object. -/
def shallowCheck (container : Members) : NestedCheck → Json → List Text
  | .condition, _ => ctx.checkCondition container
  | .actions, value => ctx.checkActions value
  | .none, _ => []
  | .ruleTree, _ => []

/-- Checks a leaf, field by field. -/
def checkLeaf (node : Members) : List (List Text) :=
  ruleFields.map fun field => ctx.checkField (ctx.shallowCheck node) field.1 field.2 node

/-! ## Rules -/

/-- A piece of work: messages to report, or a rule to take up at a depth. -/
inductive Work where
  | report (errors : List Text)
  | visit (node : Members) (depth : Nat)

/-- The work that a value held by a combination field makes. -/
def heldWork (name : Text) (depth : Nat) : Json → Work
  | .obj node => .visit node (depth + 1)
  | value => .report (ctx.checkKind name [.object] value.kind)

/-- The work that a present combination field makes. -/
def combinationWork (name : Text) (spec : FieldSpec) (depth : Nat) (value : Json) : List Work :=
  match ctx.checkKind name spec.kinds value.kind with
  | [] => (RuleTree.heldRules value).map (ctx.heldWork name depth)
  | errors => [.report errors]

/-- The parts of a rule, in the order in which they are reported. -/
def expandNode (node : Members) (depth : Nat) : List Work :=
  if RuleTree.isCombination node then
    combinationFields.flatMap fun field =>
      ((node.get? field.1).map (ctx.combinationWork field.1 field.2 depth)).getD []
  else (ctx.checkLeaf node).map .report

/-- The state of a walk: the work left, the messages so far, and whether a rule has been too deep. -/
structure Tour where
  stack : List Work
  errors : List Text
  tooDeep : Bool

/-- Takes one piece of work from the stack. -/
def step (t : Tour) : Tour :=
  match t.stack with
  | [] => t
  | .report errors :: rest => { t with stack := rest, errors := t.errors ++ errors }
  | .visit node depth :: rest =>
    if ctx.bound.isExceededBy depth then
      { stack := rest
        errors := if t.tooDeep then t.errors else t.errors ++
          [ctx.label ++ " rule nested too deeply: exceeds maximum depth of " ++ ctx.bound.text]
        tooDeep := true }
    else { t with stack := ctx.expandNode node depth ++ rest }

/-- Takes up to a number of pieces of work from the stack. -/
def run : Nat → Tour → Tour
  | 0, t => t
  | steps + 1, t => if t.stack.isEmpty then t else run steps (ctx.step t)

/-- Checks a rule; a root that is no object is of the wrong kind. -/
def checkRule : Json → List Text
  | .obj node =>
    (ctx.run (3 * (Json.obj node).size) { stack := [.visit node 1], errors := [], tooDeep := false }).errors
  | value => ctx.checkKind "rule" [.object] value.kind

/-! ## Rule sets -/

/-- Every nested check, for a value in a given object. -/
def nestedCheck (container : Members) : NestedCheck → Json → List Text
  | .ruleTree, value => ctx.checkRule value
  | check, value => ctx.shallowCheck container check value

/-- Checks a rule set, field by field. -/
def checkRuleSet (ruleSet : Members) : List Text :=
  mainFields.flatMap fun field => ctx.checkField (ctx.nestedCheck ruleSet) field.1 field.2 ruleSet

/-- Checks an element of a document. -/
def checkElement : Json → List Text
  | .obj ruleSet => ctx.checkRuleSet ruleSet
  | value => ctx.checkKind "rule set" [.object] value.kind

/-! ## Wording -/

/-- Defects as a check with the label words them. -/
def worded (defects : List Defect) : List Text := defects.map (Defect.message ctx.label)

variable {ctx}

/-- Items that are checked one by one have the messages of their defects one by one. -/
theorem worded_flatMap {α : Type} {items : List α} {check : α → List Text} {found : α → List Defect}
    (h : ∀ a ∈ items, check a = ctx.worded (found a)) :
    items.flatMap check = ctx.worded (items.flatMap found) := by
  rw [worded, List.map_flatMap]
  exact List.flatMap_congr h

/-- The kind of a value is checked without the label but for the wording. -/
theorem checkKind_eq (field : Text) (expected : List Kind) (actual : Kind) :
    ctx.checkKind field expected actual = ctx.worded (kindDefects field expected actual) := by
  unfold checkKind kindDefects
  split
  · rfl
  · simp only [worded, List.map_singleton, Defect.message, Defect.detail, List.append_assoc]

/-- A field is checked without the label if its nested check is. -/
theorem checkField_eq {nested : NestedCheck → Json → List Text}
    {found : NestedCheck → Json → List Defect} {name : Text} {spec : FieldSpec} {container : Members}
    (h : ∀ value, nested spec.check value = ctx.worded (found spec.check value)) :
    ctx.checkField nested name spec container = ctx.worded (fieldDefects found name spec container) := by
  unfold checkField fieldDefects
  cases container.get? name with
  | none =>
    dsimp only
    split
    · simp only [worded, List.map_singleton, Defect.message, Defect.detail, List.append_assoc]
    · rfl
  | some value =>
    dsimp only
    rw [checkKind_eq]
    cases kindDefects name spec.kinds value.kind with
    | nil => exact h value
    | cons defect rest => rfl

/-- A check of an additional field words the defects of the field. -/
theorem checkAdditional_eq (condition : Text) (node : Members) (field : Text) :
    ctx.checkAdditional condition node field = ctx.worded (additionalDefects condition node field) := by
  unfold checkAdditional additionalDefects Members.has checkField
  dsimp only
  cases node.get? field with
  | none =>
    cases (additionalSpec field).required with
    | true =>
      simp [worded, Defect.message, Defect.detail]
    | false => rfl
  | some value =>
    simp only [Option.isSome_some, Bool.not_true, Bool.false_and, Bool.false_eq_true, if_false]
    rw [checkKind_eq]
    cases kindDefects field (additionalSpec field).kinds value.kind <;> rfl

/-- A check of a condition words its defects. -/
theorem checkCondition_eq (node : Members) :
    ctx.checkCondition node = ctx.worded (conditionDefects node) := by
  have unknown (condition : Json) :
      [ctx.label ++ " does not have valid condition specified: " ++ condition.shown] =
        ctx.worded [.unknownCondition condition] := by
    simp only [worded, List.map_singleton, Defect.message, Defect.detail, List.append_assoc]
  unfold checkCondition conditionDefects
  cases node.get? "condition" with
  | none => exact unknown .null
  | some value =>
    cases value with
    | str condition =>
      dsimp only
      cases additionalFieldsOf? condition with
      | none => exact unknown (.str condition)
      | some fields => exact worded_flatMap fun field _ => checkAdditional_eq condition node field
    | _ => exact unknown _

/-- A check of a member of an action words the defects of the member. -/
theorem checkActionKey_eq (key : Text) (value : Json) :
    ctx.checkActionKey key value = ctx.worded (actionKeyDefects key value) := by
  unfold checkActionKey actionKeyDefects
  cases actionFields.lookup key with
  | none => simp only [worded, List.map_singleton, Defect.message, Defect.detail, List.append_assoc]
  | some spec => exact checkKind_eq key spec.kinds value.kind

/-- A check of the actions words their defects. -/
theorem checkActions_eq (actions : Json) :
    ctx.checkActions actions = ctx.worded (actionsDefects actions) := by
  refine worded_flatMap fun action _ => ?_
  cases action with
  | obj members => exact worded_flatMap fun member _ => checkActionKey_eq member.1 member.2
  | _ => exact checkKind_eq _ _ _

/-- A check that goes no deeper words what it finds. -/
theorem shallowCheck_eq (container : Members) (check : NestedCheck) (value : Json) :
    ctx.shallowCheck container check value = ctx.worded (Rulebook.shallowCheck container check value) := by
  cases check with
  | condition => exact checkCondition_eq container
  | actions => exact checkActions_eq value
  | none => rfl
  | ruleTree => rfl

/-! ## Walks -/

/-- A piece of work with its defects worded. -/
def wordedWork (ctx : Context) : RuleTree.Item → Work
  | .report defects => .report (ctx.worded defects)
  | .visit node depth => .visit node depth

/-- A walk with its defects worded, in the order in which they have been found. -/
def wordedWalk (ctx : Context) (w : RuleTree.Walk) : Tour where
  stack := w.stack.map ctx.wordedWork
  errors := ctx.worded w.found.reverse
  tooDeep := w.reachedBound

/-- A leaf makes the same work. -/
theorem checkLeaf_eq (node : Members) :
    (ctx.checkLeaf node).map .report =
      (RuleTree.leafParts node).map fun part => ctx.wordedWork (.report part) := by
  rw [checkLeaf, RuleTree.leafParts, List.map_map, List.map_map]
  refine List.map_congr_left fun field _ => ?_
  exact congrArg Work.report (checkField_eq fun value => shallowCheck_eq node _ value)

/-- A combination puts the work on its rules on the stack, with the same words to come. -/
theorem combinationWork_eq (name : Text) (spec : FieldSpec) (depth : Nat) (value : Json) :
    ctx.combinationWork name spec depth value =
      (RuleTree.combinationItems name spec depth value).map ctx.wordedWork := by
  have held (value : Json) :
      ctx.heldWork name depth value = ctx.wordedWork (RuleTree.heldItem name depth value) := by
    cases value with
    | obj node => rfl
    | _ => exact congrArg Work.report (checkKind_eq _ _ _)
  unfold combinationWork RuleTree.combinationItems
  rw [checkKind_eq]
  cases kindDefects name spec.kinds value.kind with
  | nil =>
    simp only [worded, List.map_nil, List.map_map]
    exact List.map_congr_left fun value _ => held value
  | cons defect rest => rfl

/-- Taking up a rule puts the same work on the stack. -/
theorem expandNode_eq (node : Members) (depth : Nat) :
    ctx.expandNode node depth = (RuleTree.expand node depth).map ctx.wordedWork := by
  unfold expandNode RuleTree.expand
  split
  · rw [List.map_flatMap]
    refine List.flatMap_congr fun field _ => ?_
    dsimp only
    cases node.get? field.1 with
    | none => rfl
    | some value => exact combinationWork_eq field.1 field.2 depth value
  · rw [checkLeaf_eq, List.map_map]
    rfl

/-- One step of both walks. -/
theorem step_wordedWalk (w : RuleTree.Walk) :
    ctx.step (ctx.wordedWalk w) = ctx.wordedWalk (w.step ctx.bound) := by
  obtain ⟨stack, found, reachedBound⟩ := w
  cases stack with
  | nil => rfl
  | cons item rest =>
    cases item with
    | report defects => simp [step, wordedWalk, wordedWork, RuleTree.Walk.step, worded]
    | visit node depth =>
      simp only [step, wordedWalk, wordedWork, RuleTree.Walk.step, List.map_cons]
      split
      · cases reachedBound with
        | true => rfl
        | false => simp [worded, Defect.message, Defect.detail]
      · simp [expandNode_eq]

/-- Both walks go the same way. -/
theorem run_wordedWalk (steps : Nat) (w : RuleTree.Walk) :
    ctx.run steps (ctx.wordedWalk w) = ctx.wordedWalk (w.run ctx.bound steps) := by
  induction steps generalizing w with
  | zero => rfl
  | succ steps ih =>
    have same : (ctx.wordedWalk w).stack.isEmpty = w.stack.isEmpty := by
      simp [wordedWalk]
    rw [run, RuleTree.Walk.run, same]
    split
    · rfl
    · rw [step_wordedWalk, ih]

/-- A rule is checked without the label. -/
theorem checkRule_eq (value : Json) :
    ctx.checkRule value = ctx.worded (RuleTree.defects ctx.bound value) := by
  cases value with
  | obj node => exact congrArg Tour.errors (run_wordedWalk _ (RuleTree.Walk.start node))
  | _ => exact checkKind_eq _ _ _

/-! ## Rule sets -/

/-- A check of the value of a field words the defects of the value. -/
theorem nestedCheck_eq (container : Members) (check : NestedCheck) (value : Json) :
    ctx.nestedCheck container check value =
      ctx.worded (Document.nestedCheck ctx.bound container check value) := by
  cases check with
  | ruleTree => exact checkRule_eq value
  | condition => exact shallowCheck_eq container .condition value
  | actions => exact shallowCheck_eq container .actions value
  | none => rfl

/-- A rule set is checked without the label. -/
theorem checkRuleSet_eq (ruleSet : Members) :
    ctx.checkRuleSet ruleSet = ctx.worded (Document.ruleSetDefects ctx.bound ruleSet) :=
  worded_flatMap fun _ _ => checkField_eq fun value => nestedCheck_eq ruleSet _ value

/-- A check that knows its label finds what the check without it finds, and words it under the label. -/
theorem checkElement_eq (element : Json) :
    ctx.checkElement element = ctx.worded (Document.elementDefects ctx.bound element) := by
  cases element with
  | obj ruleSet => exact checkRuleSet_eq ruleSet
  | _ => exact checkKind_eq _ _ _

end Context

end Rulebook
