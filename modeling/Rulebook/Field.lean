import Rulebook.Kind

/-!
# Field tables

The grammar of a rule set document as data. Each table lists the fields of one sort of object in
the order in which they are checked, and each field says whether it is required, which kinds its
value may have and which check its value undergoes besides. The conditions are listed with the
additional fields that each of them calls for. The validator and the exported schema read the
same tables.
-/

set_option autoImplicit false

namespace Rulebook

/-- The check that a field's value undergoes once its kind is right. -/
inductive NestedCheck where
  | none
  | ruleTree
  | condition
  | actions
deriving DecidableEq, Repr

/-- The name of a nested check. -/
def NestedCheck.name : NestedCheck → Text
  | .none => "none"
  | .ruleTree => "rule_tree"
  | .condition => "condition"
  | .actions => "actions"

/-- The nested check with a given name. -/
def NestedCheck.ofName? (t : Text) : Option NestedCheck :=
  [NestedCheck.none, .ruleTree, .condition, .actions].find? fun c => c.name = t

/-- What is declared of a field. -/
structure FieldSpec where
  /-- Whether the field must be present. -/
  required : Bool := false
  /-- The kinds that the value may have; any kind if none is listed. -/
  kinds : List Kind := []
  /-- The check of the value besides its kind. -/
  check : NestedCheck := .none
  /-- The fields that are meant to go with this one; no check asks for them. -/
  companions : List Text := []
deriving DecidableEq

/-- The fields of one sort of object, in order. -/
abbrev FieldTable := List (Text × FieldSpec)

/-- The fields of a rule set. -/
def mainFields : FieldTable := [
  ("id", { kinds := [.string] }),
  ("description", { kinds := [.string] }),
  ("rule", { required := true, kinds := [.object], check := .ruleTree }),
  ("actions", { kinds := [.array], check := .actions })]

/-- The fields of a leaf of a rule tree. -/
def ruleFields : FieldTable := [
  ("condition", { required := true, kinds := [.string], check := .condition }),
  ("property", { required := true, kinds := [.string] })]

/-- The fields that combine rules: a branch holds one rule, a junction holds a list of them. -/
def combinationFields : FieldTable := [
  ("if", { kinds := [.object] }),
  ("then", { kinds := [.object] }),
  ("and", { kinds := [.array] }),
  ("or", { kinds := [.array] })]

/-- The fields of an action. -/
def actionFields : FieldTable := [
  ("callOnTrue", { kinds := [.string], companions := ["args"] }),
  ("callOnFalse", { kinds := [.string], companions := ["args"] }),
  ("args", { kinds := [.array] }),
  ("returnOnTrue", { kinds := [.string] }),
  ("returnOnFalse", { kinds := [.string] })]

/-- The fields that a condition may call for. -/
def additionalFields : FieldTable := [
  ("value", { required := true, kinds := [.string, .number] }),
  ("values", { required := true, kinds := [.array] }),
  ("start", { required := true, kinds := [.number] }),
  ("end", { required := true, kinds := [.number] }),
  ("function", { required := true, kinds := [.string] })]

/-- The tables by the sorts of object whose fields they list. -/
def fieldTables : List (Text × FieldTable) := [
  ("main", mainFields),
  ("rule", ruleFields),
  ("combination", combinationFields),
  ("action", actionFields),
  ("additional", additionalFields)]

/-- What is declared of an additional field. -/
def additionalSpec (name : Text) : FieldSpec := (additionalFields.lookup name).getD {}

/-- The conditions on the form of a value. -/
def formConditions : List (Text × List Text) := [
  ("call", ["function"]),
  ("email_address", []),
  ("zipcode", []),
  ("yyyy_mm_dd_hh_mm_ss", []),
  ("yyyy_mm_dd_hh_mm", []),
  ("yyyy_mm_dd", []),
  ("mm_dd_yyyy", []),
  ("yyyy", []),
  ("hh_mm", []),
  ("hh_mm_ss", []),
  ("matches_regex", ["value"]),
  ("is_integer", []),
  ("is_float", [])]

/-- The conditions that compare a value with another one. -/
def comparisonConditions : List (Text × List Text) := [
  ("equal", ["value"]),
  ("not_equal", ["value"]),
  ("greater_than", ["value"]),
  ("less_than", ["value"]),
  ("greater_than_or_equal", ["value"]),
  ("less_than_or_equal", ["value"]),
  ("equal_property", ["value"]),
  ("not_equal_property", ["value"]),
  ("greater_than_property", ["value"]),
  ("less_than_property", ["value"]),
  ("greater_than_or_equal_property", ["value"]),
  ("less_than_or_equal_property", ["value"]),
  ("between", ["start", "end"])]

/-- The conditions on what a value holds, is or belongs to. -/
def contentConditions : List (Text × List Text) := [
  ("starts_with", ["value"]),
  ("ends_with", ["value"]),
  ("contains", ["value"]),
  ("not_empty", []),
  ("is_empty", []),
  ("is_true", []),
  ("is_false", []),
  ("in", ["values"]),
  ("not_in", ["values"]),
  ("does_not_contain", ["value"]),
  ("includes_all", ["values"]),
  ("includes_none", ["values"])]

/-- The conditions with the additional fields that each calls for. -/
def conditions : List (Text × List Text) :=
  formConditions ++ comparisonConditions ++ contentConditions

/-- The additional fields of a condition, if the condition is registered. -/
def additionalFieldsOf? (condition : Text) : Option (List Text) := conditions.lookup condition

end Rulebook
