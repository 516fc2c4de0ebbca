import Rulebook.Check

/-!
# Walking a rule tree

A rule is an object. If it has any of the combination fields it combines the rules it holds there,
and its other fields do not count; otherwise it is a leaf with a condition and a property. The
tree is walked with a stack of work instead of recursion. Taking up a rule puts its parts on the
stack in the order in which their defects are to be reported, so the report is in depth-first
order. The root has depth one; a rule deeper than the bound is not entered, and the first such
rule is reported.

Each value in the tree accounts for at most three items that are ever taken from the stack, so
three times the size of the tree bounds the number of steps.
-/

set_option autoImplicit false

namespace Rulebook.RuleTree

/-- The defects of a leaf, field by field. -/
def leafParts (node : Members) : List (List Defect) :=
  ruleFields.map fun (name, spec) => fieldDefects (shallowCheck node) name spec node

/-- Whether a rule combines other rules. -/
def isCombination (node : Members) : Bool := combinationFields.any fun (name, _) => node.has name

/-- The rules that the value of a combination field holds: the items of an array, or the value. -/
def heldRules : Json → List Json
  | .arr items => items
  | value => [value]

/-- A piece of work: defects to report, or a rule to take up at a depth. -/
inductive Item where
  | report (defects : List Defect)
  | visit (node : Members) (depth : Nat)

/-- The work that a value held by a combination field makes: an object is a rule one level further
down, anything else is of the wrong kind. -/
def heldItem (name : Text) (depth : Nat) : Json → Item
  | .obj node => .visit node (depth + 1)
  | value => .report (kindDefects name [.object] value.kind)

/-- The work that a present combination field makes. -/
def combinationItems (name : Text) (spec : FieldSpec) (depth : Nat) (value : Json) : List Item :=
  match kindDefects name spec.kinds value.kind with
  | [] => (heldRules value).map (heldItem name depth)
  | defects => [.report defects]

/-- The parts of a rule, in the order in which they are reported. -/
def expand (node : Members) (depth : Nat) : List Item :=
  if isCombination node then
    combinationFields.flatMap fun (name, spec) =>
      match node.get? name with
      | none => []
      | some value => combinationItems name spec depth value
  else (leafParts node).map .report

/-- The state of a walk. -/
structure Walk where
  /-- The work left, the next piece first. -/
  stack : List Item
  /-- The defects found, the latest first. -/
  found : List Defect
  /-- Whether a rule has been found too deep. -/
  reachedBound : Bool

/-- The walk that is about to take up a root. -/
def Walk.start (node : Members) : Walk :=
  { stack := [.visit node 1], found := [], reachedBound := false }

/-- Takes one piece of work from the stack. -/
def Walk.step (bound : DepthBound) (w : Walk) : Walk :=
  match w.stack with
  | [] => w
  | .report defects :: rest => { w with stack := rest, found := defects.reverse ++ w.found }
  | .visit node depth :: rest =>
    if bound.isExceededBy depth then
      { stack := rest
        found := if w.reachedBound then w.found else .tooDeep bound :: w.found
        reachedBound := true }
    else { w with stack := expand node depth ++ rest }

/-- Takes up to a number of pieces of work from the stack. -/
def Walk.run (bound : DepthBound) : Nat → Walk → Walk
  | 0, w => w
  | steps + 1, w => if w.stack.isEmpty then w else Walk.run bound steps (w.step bound)

/-- The defects of the rule tree under a root. -/
def nodeDefects (bound : DepthBound) (node : Members) : List Defect :=
  ((Walk.start node).run bound (3 * (Json.obj node).size)).found.reverse

/-- The defects of a rule tree; a root that is no object is of the wrong kind. -/
def defects (bound : DepthBound) : Json → List Defect
  | .obj node => nodeDefects bound node
  | value => kindDefects "rule" [.object] value.kind

end Rulebook.RuleTree
