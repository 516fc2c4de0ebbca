import Rulebook.Schema.Export

/-!
# How far a check against the schema reaches

Checking a document follows every rule into the rules that it combines, and only so many steps at
once can be open. A branch takes six steps and a junction eight, whether or not what lies there
conforms. A document whose rules lie deeper than the steps reach has no report.
-/

set_option autoImplicit false

namespace Rulebook.Schema

/-- The steps from a rule to one that a branch holds. -/
def branchSteps : Nat := 6

/-- The steps from a rule to one that a junction holds. -/
def junctionSteps : Nat := 8

/-- Whether a key is that of a combination field whose value has a kind. -/
def isCombinationOf (kind : Kind) (key : Text) : Bool :=
  (combinationFields.lookup key).any fun spec => spec.kinds.contains kind

mutual

/-- The steps to the deepest rule in a rule. -/
def ruleSteps : Json → Nat
  | .obj members => memberSteps members
  | _ => 0

/-- The steps to the deepest rule in one of several rules. -/
def itemSteps : List Json → Nat
  | [] => 0
  | item :: rest => max (ruleSteps item) (itemSteps rest)

/-- The steps to the deepest rule in the members of a rule. -/
def memberSteps : List (Text × Json) → Nat
  | [] => 0
  | (key, .obj members) :: rest =>
    max (if isCombinationOf .object key then branchSteps + memberSteps members else 0)
      (memberSteps rest)
  | (key, .arr items) :: rest =>
    max (if isCombinationOf .array key then junctionSteps + itemSteps items else 0)
      (memberSteps rest)
  | _ :: rest => memberSteps rest

end

/-- The steps to the deepest rule in an element of a document. -/
def elementSteps : Json → Nat
  | .obj ruleSet => ((Members.get? ruleSet "rule").map ruleSteps).getD 0
  | _ => 0

/-- The steps to the deepest rule in a document. -/
def documentSteps : Json → Nat
  | .arr elements => (elements.map elementSteps).foldl max 0
  | _ => 0

/-- The most steps that can be open. -/
def stepLimit : Nat := 972

/-- The report on a document, if its rules are within reach. -/
def report? (v : Json) : Option (List Text) :=
  if documentSteps v ≤ stepLimit then some (errors v) else none

end Rulebook.Schema
