import Rulebook.Registry.Store
import Rulebook.Text.Integer

/-!
# Forms

What a request says about a document, read from the members of its body. Integers and truth values
may be written in other kinds that stand for them without doubt, such as `"3"`, `1.0` or `"yes"`.
Every field is read, and all faults are reported in the order of the fields. A fault names the place
and keeps the value it concerns, because an answer echoes that value.
-/

set_option autoImplicit false

namespace Rulebook

/-- What is wrong with a field or a body. -/
inductive FormCause where
  | missing
  | jsonInvalid
  | notObject
  | notText
  | emptyText
  | unencodableText
  | notInteger
  | unreadableInteger
  | oversizedInteger
  | fractional
  | notFinite
  | notBoolean
  | unreadableBoolean
deriving DecidableEq, Repr

/-- The name by which an answer tells a cause. -/
def FormCause.name : FormCause → Text
  | .missing => "missing"
  | .jsonInvalid => "json_invalid"
  | .notObject => "model_attributes_type"
  | .notText => "string_type"
  | .emptyText => "string_too_short"
  | .unencodableText => "string_unicode"
  | .notInteger => "int_type"
  | .unreadableInteger => "int_parsing"
  | .oversizedInteger => "int_parsing_size"
  | .fractional => "int_from_float"
  | .notFinite => "finite_number"
  | .notBoolean => "bool_type"
  | .unreadableBoolean => "bool_parsing"

/-- A fault of a form. -/
structure FormFault where
  cause : FormCause
  /-- The steps from the request to the value at fault. -/
  place : List Json
  /-- The value at fault, or the object in which one is missing. -/
  echo : Json
deriving DecidableEq

/-- A fault as an answer shows it. -/
def FormFault.toJson (f : FormFault) : Json :=
  .obj [("type", .str f.cause.name), ("loc", .arr f.place)]

/-- Whether all that an answer on faults echoes can be sent. -/
def FormFault.isTransmissible (f : FormFault) : Bool := f.echo.isTransmissible

namespace Form

/-- The place of a body. -/
def bodyPlace : List Json := [.str "body"]

/-- The place of a field of a body. -/
def fieldPlace (name : Text) : List Json := bodyPlace ++ [.str name]

/-! ## Values -/

/-- A text. -/
def readText : Json → Except FormCause Text
  | .str t => .ok t
  | _ => .error .notText

/-- A text that is not empty. -/
def readName (v : Json) : Except FormCause Text :=
  match readText v with
  | .error cause => .error cause
  | .ok t =>
    if !t.isEncodable then .error .unencodableText
    else if t.isEmpty then .error .emptyText
    else .ok t

/-- The integer that a text denotes. -/
def readNumeral (t : Text) : Except FormCause Int :=
  match t.formInteger with
  | .value n => .ok n
  | .oversized => .error .oversizedInteger
  | .unreadable => .error .unreadableInteger

/-- The whole number that a finite number without a fraction is, if it lies strictly between the
bounds of 64 bits. -/
def readWhole (x : Binary64) : Except FormCause Int :=
  if !x.isFinite then .error .notFinite
  else
    match x.wholeValue? with
    | some n => if -Registry.integerBound < n ∧ n < Registry.integerBound then .ok n
      else .error .oversizedInteger
    | none => .error .fractional

/-- An integer, or what stands for one: a truth value, a number without a fraction, or a numeral. -/
def readInteger : Json → Except FormCause Int
  | .int n => .ok n
  | .bool b => .ok (if b then 1 else 0)
  | .float x => readWhole x
  | .str t => readNumeral t
  | _ => .error .notInteger

/-- The words that stand for a truth value, in lower case. -/
def booleanWords : List (Text × Bool) := [
  ("0", false), ("off", false), ("f", false), ("false", false), ("n", false), ("no", false),
  ("1", true), ("on", true), ("t", true), ("true", true), ("y", true), ("yes", true)]

/-- The truth value that an integer stands for. -/
def booleanOfInt (n : Int) : Except FormCause Bool :=
  if n = 0 then .ok false else if n = 1 then .ok true else .error .unreadableBoolean

/-- A truth value, or what stands for one: zero, one, or a word in any case. A number that is no
integer of 64 bits is of the wrong kind altogether. -/
def readBoolean : Json → Except FormCause Bool
  | .bool b => .ok b
  | .int n => if Registry.fits n then booleanOfInt n else .error .notBoolean
  | .float x =>
    match readWhole x with
    | .ok n => booleanOfInt n
    | .error _ => .error .notBoolean
  | .str t =>
    match booleanWords.lookup t.toLowerAscii with
    | some b => .ok b
    | none => .error .unreadableBoolean
  | _ => .error .notBoolean

/-- A value that may be null. -/
def readNullable {α : Type} (read : Json → Except FormCause α) :
    Json → Except FormCause (Option α)
  | .null => .ok none
  | v => (read v).map some

/-! ## Fields -/

/-- A field that must be present. -/
def required {α : Type} (read : Json → Except FormCause α) (name : Text) (body : Members) :
    Except FormFault α :=
  match body.get? name with
  | none => .error { cause := .missing, place := fieldPlace name, echo := .obj body }
  | some v =>
    match read v with
    | .ok a => .ok a
    | .error cause => .error { cause, place := fieldPlace name, echo := v }

/-- A field that has a value if it is absent. -/
def optional {α : Type} (read : Json → Except FormCause α) (default : α) (name : Text)
    (body : Members) : Except FormFault α :=
  if body.has name then required read name body else .ok default

/-- A field that an update may leave alone, clear or set. -/
def changeable {α : Type} (read : Json → Except FormCause α) (name : Text) (body : Members) :
    Except FormFault (Change α) :=
  match optional (readNullable read) none name body with
  | .error fault => .error fault
  | .ok (some a) => .ok (.set a)
  | .ok none => .ok (if body.has name then .clear else .keep)

/-- The fault of a field, if it has one. -/
def faultOf {α : Type} : Except FormFault α → List FormFault
  | .ok _ => []
  | .error fault => [fault]

/-- The form for a new document. -/
def newDocument (body : Members) : Except (List FormFault) NewDocument :=
  let name := required readName "name" body
  let version := optional readInteger 1 "version" body
  let active := optional readBoolean true "is_active" body
  let notes := optional (readNullable readText) none "notes" body
  let content := required readText "content" body
  match name, version, active, notes, content with
  | .ok name, .ok version, .ok active, .ok notes, .ok content =>
    .ok { name, version, active, notes, content }
  | _, _, _, _, _ =>
    .error (faultOf name ++ faultOf version ++ faultOf active ++ faultOf notes ++ faultOf content)

/-- The form for a change of a document. -/
def documentChange (body : Members) : Except (List FormFault) DocumentChange :=
  let active := changeable readBoolean "is_active" body
  let notes := changeable readText "notes" body
  match active, notes with
  | .ok active, .ok notes => .ok { active, notes }
  | _, _ => .error (faultOf active ++ faultOf notes)

/-- The form for a validation: the content, which may be any value and is null if it is absent. -/
def validation (body : Members) : Except (List FormFault) Json :=
  .ok ((body.get? "content").getD .null)

end Form

end Rulebook
