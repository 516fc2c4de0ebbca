import Rulebook.Field
import Rulebook.Defect

/-!
# Checking fields, conditions and actions

A field is checked for its presence, then for the kind of its value, and only a value of a right
kind undergoes its nested check, so a check never sees a value that it is not made for. A leaf's
condition is looked up and its additional fields are checked in their order. Actions are checked
item by item and key by key; unlike a rule set, an action may hold no other keys than its fields.
-/

set_option autoImplicit false

namespace Rulebook

/-- The defects in the kind of a field's value. A field without declared kinds admits any. -/
def kindDefects (field : Text) (expected : List Kind) (actual : Kind) : List Defect :=
  if expected = [] ∨ actual ∈ expected then [] else [.wrongKind field expected actual]

/-- The defects of one field of an object, the nested check being given. -/
def fieldDefects (nested : NestedCheck → Json → List Defect) (name : Text) (spec : FieldSpec)
    (container : Members) : List Defect :=
  match container.get? name with
  | none => if spec.required then [.missingField name] else []
  | some value =>
    match kindDefects name spec.kinds value.kind with
    | [] => nested spec.check value
    | defects => defects

/-- The defects of a field that a condition calls for. -/
def additionalDefects (condition : Text) (node : Members) (field : Text) : List Defect :=
  let spec := additionalSpec field
  match node.get? field with
  | none => if spec.required then [.missingAdditionalField condition field] else []
  | some value => kindDefects field spec.kinds value.kind

/-- The defects of a leaf's condition and of the additional fields it calls for. -/
def conditionDefects (node : Members) : List Defect :=
  match node.get? "condition" with
  | some (.str condition) =>
    match additionalFieldsOf? condition with
    | some fields => fields.flatMap (additionalDefects condition node)
    | none => [.unknownCondition (.str condition)]
  | some value => [.unknownCondition value]
  | none => [.unknownCondition .null]

/-- The defects of one key of an action. -/
def actionKeyDefects (key : Text) (value : Json) : List Defect :=
  match actionFields.lookup key with
  | none => [.unknownAction key]
  | some spec => kindDefects key spec.kinds value.kind

/-- The defects of one action. -/
def actionDefects : Json → List Defect
  | .obj members => members.flatMap fun (key, value) => actionKeyDefects key value
  | value => kindDefects "actions" [.object] value.kind

/-- The parts that actions are taken from: the items of an array, the code points of a text or the
keys of an object. A number, a truth value and null have none. -/
def actionParts? : Json → Option (List Json)
  | .arr items => some items
  | .str t => some (t.map fun c => .str [c])
  | .obj members => some ((Members.keys members).map .str)
  | _ => none

/-- The defects of a list of actions. -/
def actionsDefects (actions : Json) : List Defect :=
  ((actionParts? actions).getD []).flatMap actionDefects

/-- The nested checks that need no bound on the depth, for a value in a given object. -/
def shallowCheck (container : Members) : NestedCheck → Json → List Defect
  | .condition, _ => conditionDefects container
  | .actions, value => actionsDefects value
  | .none, _ => []
  | .ruleTree, _ => []

end Rulebook
