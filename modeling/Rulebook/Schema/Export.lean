import Rulebook.Field
import Rulebook.Schema.Conformance

/-!
# The grammar as a schema

The field tables rendered as a schema. A rule is either a combination, which needs one of the
combination fields and whose branches and junctions hold rules again, or a condition, which must
have none of them. The conditions are listed, and each condition with additional fields demands
them. An action is closed: it has no other keys than its fields.
-/

set_option autoImplicit false

namespace Rulebook.Schema

/-- The names of the required fields of a table. -/
def requiredNames (table : FieldTable) : List Text :=
  (table.filter fun (_, spec) => spec.required).map Prod.fst

/-- The schema of a field by its kinds alone. -/
def kindSchema (spec : FieldSpec) : Schema := [.type spec.kinds]

/-- One schema for each combination field, which demands that field. -/
def combinationDemands : List Schema :=
  combinationFields.map fun (name, _) => [.required [name]]

/-- The schema of a combination field: a junction is an array of rules, a branch is a rule. -/
def combinationField (spec : FieldSpec) : Schema :=
  if spec.kinds.contains .array then [.type [.array], .items [.ref .rule]] else [.ref .rule]

/-- The schema of a rule that combines rules. -/
def combination : Schema := [
  .type [.object],
  .properties (combinationFields.map fun (name, spec) => (name, combinationField spec)) false,
  .anyOf combinationDemands]

/-- The schema that demands the additional fields of a condition. -/
def requirement (condition : Text) (fields : List Text) : Schema := [
  .ifThen
    [.properties [("condition", [.const condition])] false, .required ["condition"]]
    [.required fields,
      .properties (fields.map fun name => (name, kindSchema (additionalSpec name))) false]]

/-- The requirements of the conditions that have additional fields. -/
def requirements : List Schema :=
  (conditions.filter fun (_, fields) => !fields.isEmpty).map fun (condition, fields) =>
    requirement condition fields

/-- The schema of a field of a leaf; the condition is one of those registered. -/
def leafField (spec : FieldSpec) : Schema :=
  if spec.check = .condition then kindSchema spec ++ [.enum (conditions.map Prod.fst)]
  else kindSchema spec

/-- The schema of a leaf. -/
def leaf : Schema := [
  .type [.object],
  .required (requiredNames ruleFields),
  .properties (ruleFields.map fun (name, spec) => (name, leafField spec)) false,
  .not [.anyOf combinationDemands],
  .allOf requirements]

/-- The schema of an action. -/
def action : Schema := [
  .type [.object],
  .properties (actionFields.map fun (name, spec) => (name, kindSchema spec)) true]

/-- The definitions. -/
def define : Definition → Schema
  | .rule => [.anyOf [combination, [.ref .condition]]]
  | .condition => leaf
  | .action => action

/-- The schema of a field of a rule set. -/
def mainField (spec : FieldSpec) : Schema :=
  match spec.check with
  | .ruleTree => [.ref .rule]
  | .actions => [.type [.array], .items [.ref .action]]
  | _ => kindSchema spec

/-- The schema of a rule set. -/
def ruleSet : Schema := [
  .type [.object],
  .required (requiredNames mainFields),
  .properties (mainFields.map fun (name, spec) => (name, mainField spec)) false]

/-- The schema of a document. -/
def document : Schema := [.type [.array], .items ruleSet]

/-- The members that name the exported schema. -/
def header : Members := [
  ("$schema", .str "http://json-schema.org/draft-07/schema#"),
  ("title", .str "brij rule sets")]

/-- The member that holds the definitions. -/
def definitions : Members := [
  ("definitions",
    .obj ([Definition.rule, .condition, .action].map fun d => (d.name, toJson (define d))))]

/-- The exported schema with its definitions. -/
def exported : Json := .obj (header ++ members document ++ definitions)

/-- How a document violates the exported schema, in the order of the places. -/
def documentViolations (v : Json) : List Violation :=
  sorted (violations (resolverFor define v) document v)

/-- The messages on a document that does not conform to the exported schema. -/
def errors (v : Json) : List Text := (documentViolations v).map Violation.message

end Rulebook.Schema
