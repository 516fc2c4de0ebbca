import Rulebook.Document
import Rulebook.Lookup

/-!
# Checking parts of a document

A field, a condition, actions, a rule and a rule set can be checked on their own, and then any value
may be handed in as one. The defects are those that the part has inside of a document. A value that
cannot be asked for what a check looks at is not checked: that is a fault of the call and no defect.
-/

set_option autoImplicit false

namespace Rulebook.Part

/-- Why a part cannot be checked. -/
inductive Fault where
  /-- No field can be looked up in the value. -/
  | lookup (cause : LookupFault)
  /-- A condition is to be read from a value that is no object. -/
  | notObject
  /-- Actions are to be taken from a value that has no parts. -/
  | noParts
  /-- The depth of a rule is to be compared with what is no bound. -/
  | incomparableDepth
deriving DecidableEq, Repr

/-- What a look-up finds. -/
def found {α : Type} : Except LookupFault α → Except Fault α
  | .ok a => .ok a
  | .error cause => .error (.lookup cause)

/-- What comes of a depth. -/
def atDepth (depth : DepthChoice) (entersRule : Bool) (act : DepthBound → List Defect) :
    Except Fault (List Defect) :=
  match depth.run? entersRule act with
  | some defects => .ok defects
  | none => .error .incomparableDepth

/-- The defects of the condition of a leaf. -/
def condition : Json → Except Fault (List Defect)
  | .obj node => .ok (conditionDefects node)
  | _ => .error .notObject

/-- The defects of actions. -/
def actions (value : Json) : Except Fault (List Defect) :=
  if (actionParts? value).isSome then .ok (actionsDefects value) else .error .noParts

/-- The defects of a rule. -/
def rule (depth : DepthChoice) (value : Json) : Except Fault (List Defect) :=
  atDepth depth (value.kind = .object) fun bound => RuleTree.defects bound value

/-- The defects that the nested check of a field finds. -/
def nested (depth : DepthChoice) (container value : Json) :
    NestedCheck → Except Fault (List Defect)
  | .none => .ok []
  | .ruleTree => rule depth value
  | .condition => condition container
  | .actions => actions value

/-- The defects of a field of a value. -/
def field (depth : DepthChoice) (name : Json) (spec : FieldSpec) (container : Json) :
    Except Fault (List Defect) := do
  match ← found (Json.lookup name container) with
  | none => return if spec.required then [.missingField name.shown] else []
  | some value =>
    match kindDefects name.shown spec.kinds value.kind with
    | [] => nested depth container value spec.check
    | defects => return defects

/-- The defects of a rule set. -/
def ruleSet (depth : DepthChoice) (value : Json) : Except Fault (List Defect) := do
  let members ← found (value.fieldsFor (mainFields.map Prod.fst))
  atDepth depth (Document.holdsRule members) fun bound => Document.ruleSetDefects bound members

end Rulebook.Part
