import Rulebook.RuleTree
import Rulebook.Json.Reader
import Rulebook.Json.Writer

/-!
# Rule set documents

A document is a text that holds a JSON array of rule sets. Reading it fails with one critical cause
or gives the rule sets; each of them is then checked field by field under its label, and all
defects are reported in order. A verdict is therefore one of three: the document is valid, it has
defects, or it could not be read.
-/

set_option autoImplicit false

namespace Rulebook

/-- What is handed in for validation. -/
inductive Content where
  /-- A JSON value; only a text can be a document. -/
  | value (v : Json)
  /-- A byte string. -/
  | bytes (octets : List UInt8)

/-- The kind of what is handed in. -/
def Content.kind : Content → Kind
  | .value v => v.kind
  | .bytes _ => .bytes

/-- Why a document cannot be read. -/
inductive Critical where
  /-- What is handed in is no text. -/
  | notText
  /-- The text is no JSON. -/
  | notJson (source : Text) (fault : Json.Reader.Fault)
  /-- The value is neither an array nor an object. -/
  | scalar (kind : Kind)
  /-- The value is an object. -/
  | notArray
deriving DecidableEq

/-- The wording of a critical cause. -/
def Critical.message : Critical → Text
  | .notText => "Invalid data - Not a string"
  | .notJson source fault => "Invalid JSON - " ++ fault.message source
  | .scalar kind => "Invalid brij JSON - not an object: got instead: " ++ kind.name
  | .notArray => "Invalid brij JSON - not an array"

namespace Document

/-- Reads the rule sets of a document from its text. -/
def parseText (source : Text) : Except Critical (List Json) :=
  match Json.Reader.strictDocument source with
  | .error fault => .error (.notJson source fault)
  | .ok (.arr ruleSets) => .ok ruleSets
  | .ok (.obj _) => .error .notArray
  | .ok v => .error (.scalar v.kind)

/-- Reads the rule sets of a document. -/
def parse : Content → Except Critical (List Json)
  | .value (.str source) => parseText source
  | _ => .error .notText

/-- The label of a rule set: its identifier if it has one, as it is if it is a text and as JSON text
otherwise, or else its position, as it is written. -/
def label (position : Text) : Json → Text
  | .obj members =>
    match Members.get? members "id" with
    | some (.str t) => t
    | some v => v.text
    | none => "Rule #" ++ position
  | _ => "Rule #" ++ position

/-- Every nested check, for a value in a given object. -/
def nestedCheck (bound : DepthBound) (container : Members) : NestedCheck → Json → List Defect
  | .ruleTree, value => RuleTree.defects bound value
  | check, value => shallowCheck container check value

/-- The defects of one field of an object with every nested check. -/
def fieldDefects (bound : DepthBound) (name : Text) (spec : FieldSpec) (container : Members) :
    List Defect :=
  Rulebook.fieldDefects (nestedCheck bound container) name spec container

/-- The defects of a rule set, field by field. -/
def ruleSetDefects (bound : DepthBound) (ruleSet : Members) : List Defect :=
  mainFields.flatMap fun (name, spec) => fieldDefects bound name spec ruleSet

/-- The defects of an element of a document. -/
def elementDefects (bound : DepthBound) : Json → List Defect
  | .obj ruleSet => ruleSetDefects bound ruleSet
  | value => kindDefects "rule set" [.object] value.kind

/-- The messages of an element at a position of a document. -/
def elementMessages (bound : DepthBound) (element : Json) (position : Nat) : List Text :=
  (elementDefects bound element).map (Defect.message (label (Text.ofNat position) element))

/-- The messages of all elements of a document, in order. -/
def messages (bound : DepthBound) (ruleSets : List Json) : List Text :=
  ruleSets.zipIdx.flatMap fun (element, position) => elementMessages bound element position

/-- Whether checking a rule set enters a rule. -/
def holdsRule (ruleSet : Members) : Bool :=
  match ruleSet.get? "rule" with
  | some (.obj _) => true
  | _ => false

/-- Whether checking an element enters a rule. -/
def elementHoldsRule : Json → Bool
  | .obj ruleSet => holdsRule ruleSet
  | _ => false

/-- Whether validating what is handed in enters a rule. -/
def entersRule (content : Content) : Bool :=
  match parse content with
  | .ok ruleSets => ruleSets.any elementHoldsRule
  | .error _ => false

end Document

/-- What validation says of a document. -/
inductive Verdict where
  | valid
  | invalid (errors : List Text)
  | critical (cause : Critical)
deriving DecidableEq

namespace Verdict

/-- The verdict on the rule sets of a document that could be read. -/
def ofMessages : List Text → Verdict
  | [] => valid
  | errors => invalid errors

/-- Whether a document is valid. -/
def isValid : Verdict → Bool
  | valid => true
  | _ => false

/-- The messages of a document with defects. -/
def errors : Verdict → List Text
  | invalid errors => errors
  | _ => []

/-- The message of a document that could not be read. -/
def critical? : Verdict → Option Text
  | critical cause => some cause.message
  | _ => none

/-- A verdict as an answer shows it. -/
def toJson : Verdict → Json
  | valid => .obj [("valid", .bool true)]
  | invalid errors => .obj [("valid", .bool false), ("errors", .arr (errors.map .str))]
  | critical cause => .obj [("valid", .bool false), ("critical", .str cause.message)]

/-- A verdict as the audit log shows it. -/
def summary (v : Verdict) : Members := [
  ("valid", .bool v.isValid),
  ("error_count", .int v.errors.length),
  ("critical", (v.critical?.map Json.str).getD .null)]

end Verdict

/-- The verdict on what is handed in, rules being allowed down to a depth. -/
def validate (bound : DepthBound) (content : Content) : Verdict :=
  match Document.parse content with
  | .error cause => .critical cause
  | .ok ruleSets => .ofMessages (Document.messages bound ruleSets)

/-- The depth that a validation is called with. -/
inductive DepthChoice where
  /-- Rules are allowed down to a depth. -/
  | bound (bound : DepthBound)
  /-- No depth compares with what is given. -/
  | incomparable
deriving DecidableEq, Repr

namespace DepthChoice

/-- The depth that a value stands for. Only a number and a truth value are bounds. -/
def ofJson : Json → DepthChoice
  | .int n => .bound (.integer n)
  | .float x => .bound (.float x)
  | .bool value => .bound (.truth value)
  | _ => .incomparable

/-- What comes of a depth. Where no depth compares there is something only if no rule is entered,
and then the same comes of every depth. -/
def run? {α : Type} (depth : DepthChoice) (entersRule : Bool) (act : DepthBound → α) : Option α :=
  match depth with
  | .bound limit => some (act limit)
  | .incomparable => if entersRule then none else some (act (.integer 0))

end DepthChoice

/-- The verdict on what is handed in at a depth. -/
def judge? (depth : DepthChoice) (content : Content) : Option Verdict :=
  depth.run? (Document.entersRule content) fun bound => validate bound content

end Rulebook
