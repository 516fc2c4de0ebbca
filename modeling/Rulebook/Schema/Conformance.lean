import Rulebook.Schema
import Rulebook.Json.Literal

/-!
# Conformance to a schema

Whether a value conforms to a schema, and what is reported where it does not. A report descends
into properties, items and references and lists each violation at its path; for alternatives it is
one violation however much is wrong below. Both are defined for any meaning of the references, and
then for the meaning that a family of definitions gives them. Each time a definition refers to
itself it does so for a value inside the one at hand, so the nesting of a value bounds how often
references have to be followed.
-/

set_option autoImplicit false

namespace Rulebook.Schema

/-- A step from a value to one of its parts. -/
inductive PathStep where
  | index (n : Nat)
  | key (name : Text)
deriving DecidableEq

/-- A path step as messages show it. -/
def PathStep.text : PathStep → Text
  | .index n => Text.ofNat n
  | .key name => name

/-- Why a value does not conform to a keyword. -/
inductive Refusal where
  | notOfKind (value : Json) (kinds : List Kind)
  | notListed (value : Json) (texts : List Text)
  | notConstant (text : Text)
  | missing (name : Text)
  | unexpected (names : List Text)
  | noAlternative (value : Json)
  | excluded (value : Json) (schema : Json)
deriving DecidableEq

/-- The wording of a refusal. -/
def Refusal.message : Refusal → Text
  | .notOfKind value kinds =>
    value.literal ++ " is not of type " ++ Text.join ", " (kinds.map fun k => k.name.quoted)
  | .notListed value texts => value.literal ++ " is not one of " ++ (textArray texts).literal
  | .notConstant text => text.quoted ++ " was expected"
  | .missing name => name.quoted ++ " is a required property"
  | .unexpected names =>
    let verb : Text := if names.length = 1 then "was" else "were"
    "Additional properties are not allowed (" ++ Text.join ", " (names.map Text.quoted) ++ " " ++
      verb ++ " unexpected)"
  | .noAlternative value => value.literal ++ " is not valid under any of the given schemas"
  | .excluded value schema =>
    value.literal ++ " should not be valid under " ++ schema.literal

/-- A refusal at the path of the value it concerns. -/
structure Violation where
  path : List PathStep
  refusal : Refusal
deriving DecidableEq

/-- A violation of a part, seen from the whole. -/
def Violation.below (step : PathStep) (v : Violation) : Violation :=
  { v with path := step :: v.path }

/-- The meaning of references. -/
structure Resolver where
  /-- Whether a value conforms to a definition. -/
  accepts : Definition → Json → Bool
  /-- How a value violates a definition. -/
  violations : Definition → Json → List Violation

/-- The keys of an object that a list of properties does not name, in order of code points. -/
def unexpectedKeys (schemas : List (Text × Schema)) (object : Members) : List Text :=
  (object.keys.filter fun key => !(schemas.any fun (name, _) => name = key)).mergeSort Text.ble

mutual

/-- Whether a value conforms to a keyword. -/
def acceptsKeyword (r : Resolver) : Keyword → Json → Bool
  | .type kinds, v => kinds.contains v.kind
  | .enum texts, v =>
    match v with
    | .str t => texts.contains t
    | _ => false
  | .const text, v => v = .str text
  | .required names, v =>
    match v with
    | .obj object => names.all (Members.has object)
    | _ => true
  | .properties schemas closed, v =>
    match v with
    | .obj object =>
      acceptsProperties r schemas object && (!closed || (unexpectedKeys schemas object).isEmpty)
    | _ => true
  | .items schema, v =>
    match v with
    | .arr items => items.all (acceptsAll r schema)
    | _ => true
  | .anyOf schemas, v => acceptsSome r schemas v
  | .allOf schemas, v => acceptsEach r schemas v
  | .not schema, v => !acceptsAll r schema v
  | .ifThen condition consequence, v => !acceptsAll r condition v || acceptsAll r consequence v
  | .ref target, v => r.accepts target v

/-- Whether a value conforms to a schema. -/
def acceptsAll (r : Resolver) : List Keyword → Json → Bool
  | [], _ => true
  | keyword :: rest, v => acceptsKeyword r keyword v && acceptsAll r rest v

/-- Whether a value conforms to one of several schemas. -/
def acceptsSome (r : Resolver) : List (List Keyword) → Json → Bool
  | [], _ => false
  | schema :: rest, v => acceptsAll r schema v || acceptsSome r rest v

/-- Whether a value conforms to each of several schemas. -/
def acceptsEach (r : Resolver) : List (List Keyword) → Json → Bool
  | [], _ => true
  | schema :: rest, v => acceptsAll r schema v && acceptsEach r rest v

/-- Whether the members of an object conform to the schemas of their keys. -/
def acceptsProperties (r : Resolver) : List (Text × List Keyword) → Members → Bool
  | [], _ => true
  | (name, schema) :: rest, object =>
    (match object.get? name with
      | some v => acceptsAll r schema v
      | none => true) && acceptsProperties r rest object

end

/-- A violation at the value itself, unless a condition holds. -/
def refuseUnless (condition : Bool) (refusal : Refusal) : List Violation :=
  if condition then [] else [{ path := [], refusal }]

mutual

/-- How a value violates a keyword. -/
def keywordViolations (r : Resolver) : Keyword → Json → List Violation
  | .type kinds, v => refuseUnless (kinds.contains v.kind) (.notOfKind v kinds)
  | .enum texts, v =>
    refuseUnless (acceptsKeyword r (.enum texts) v) (.notListed v texts)
  | .const text, v => refuseUnless (acceptsKeyword r (.const text) v) (.notConstant text)
  | .required names, v =>
    match v with
    | .obj object =>
      names.flatMap fun name => refuseUnless (Members.has object name) (.missing name)
    | _ => []
  | .properties schemas closed, v =>
    match v with
    | .obj object =>
      let extra := unexpectedKeys schemas object
      propertyViolations r schemas object ++
        refuseUnless (!closed || extra.isEmpty) (.unexpected extra)
    | _ => []
  | .items schema, v =>
    match v with
    | .arr items =>
      items.zipIdx.flatMap fun (item, n) =>
        (violations r schema item).map (Violation.below (.index n))
    | _ => []
  | .anyOf schemas, v => refuseUnless (acceptsSome r schemas v) (.noAlternative v)
  | .allOf schemas, v => eachViolations r schemas v
  | .not schema, v => refuseUnless (!acceptsAll r schema v) (.excluded v (toJson schema))
  | .ifThen condition consequence, v =>
    if acceptsAll r condition v then violations r consequence v else []
  | .ref target, v => r.violations target v

/-- How a value violates a schema, keyword by keyword. -/
def violations (r : Resolver) : List Keyword → Json → List Violation
  | [], _ => []
  | keyword :: rest, v => keywordViolations r keyword v ++ violations r rest v

/-- How a value violates several schemas that all apply. -/
def eachViolations (r : Resolver) : List (List Keyword) → Json → List Violation
  | [], _ => []
  | schema :: rest, v => violations r schema v ++ eachViolations r rest v

/-- How the members of an object violate the schemas of their keys, in the order of the schemas. -/
def propertyViolations (r : Resolver) : List (Text × List Keyword) → Members → List Violation
  | [], _ => []
  | (name, schema) :: rest, object =>
    (match object.get? name with
      | some v => (violations r schema v).map (Violation.below (.key name))
      | none => []) ++ propertyViolations r rest object

end

/-- The meaning that definitions give to references followed at most so many times. -/
def resolver (define : Definition → Schema) : (levels : Nat) → Resolver
  | 0 => { accepts := fun _ _ => false, violations := fun _ _ => [] }
  | levels + 1 =>
    { accepts := fun d v => acceptsAll (resolver define levels) (define d) v
      violations := fun d v => violations (resolver define levels) (define d) v }

/-- The meaning of references inside a value: they are followed more often than the value nests. -/
def resolverFor (define : Definition → Schema) (v : Json) : Resolver :=
  resolver define (v.nesting + 2)

/-- The order of paths by the texts of their steps, a beginning before the longer path. -/
def pathBle : List Text → List Text → Bool
  | [], _ => true
  | _ :: _, [] => false
  | a :: as, b :: bs => if a = b then pathBle as bs else Text.ble a b

namespace Violation

/-- The texts of the steps of a violation's path. -/
def pathTexts (v : Violation) : List Text := v.path.map PathStep.text

/-- The message of a violation. -/
def message (v : Violation) : Text :=
  let place : Text := if v.path = [] then "<root>" else Text.join "." v.pathTexts
  place ++ ": " ++ v.refusal.message

end Violation

/-- Violations in the order of their paths; those at one path keep their order. -/
def sorted (vs : List Violation) : List Violation :=
  vs.mergeSort fun a b => pathBle a.pathTexts b.pathTexts

end Rulebook.Schema
