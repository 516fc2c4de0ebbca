import Rulebook.Document
import Rulebook.Registry.Form

/-!
# The form of a verdict

An answer to a validation has a form of its own: whether the document is valid, the errors and the critical
message. It is read from the members that a verdict shows, which have to be of the right kinds, and it leaves
out what the verdict has nothing to say on.
-/

set_option autoImplicit false

namespace Rulebook

/-- What an answer to a validation holds. -/
structure VerdictForm where
  valid : Bool
  errors : Option (List Text)
  critical : Option Text
deriving DecidableEq

namespace VerdictForm

/-- Reads a text. -/
def text? : Json → Option Text
  | .str t => some t
  | _ => none

/-- Reads texts. -/
def texts? : Json → Option (List Text)
  | .arr items => items.mapM text?
  | _ => none

/-- Reads a member that may be absent or null. -/
def nullable? {α : Type} (read : Json → Option α) : Option Json → Option (Option α)
  | none | some .null => some none
  | some v => (read v).map some

/-- Reads the form from members. There is none if a member is of another kind. -/
def ofMembers? (members : Members) : Option VerdictForm := do
  let valid ← (members.get? "valid").bind fun v => (Form.readBoolean v).toOption
  let errors ← nullable? texts? (members.get? "errors")
  let critical ← nullable? text? (members.get? "critical")
  return { valid, errors, critical }

/-- Reads the form from a value, which has to be an object. -/
def ofJson? : Json → Option VerdictForm
  | .obj members => ofMembers? members
  | _ => none

/-- The form as an answer shows it, without the members that it has no value for. -/
def toJson (form : VerdictForm) : Json :=
  let valid : Members := [("valid", .bool form.valid)]
  let errors : Members := form.errors.toList.map fun errors => ("errors", .arr (errors.map .str))
  let critical : Members := form.critical.toList.map fun message => ("critical", .str message)
  .obj (valid ++ errors ++ critical)

end VerdictForm

end Rulebook
