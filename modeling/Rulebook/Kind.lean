import Rulebook.Json

/-!
# Kinds

The structural kind of a value, as messages name it. Integers and floating-point numbers are both
numbers, and a truth value is neither. A field of a document is declared with the kinds it may
have; a byte string has a kind of its own. A declaration may also name a kind that no value has.
-/

set_option autoImplicit false

namespace Rulebook

/-- The structural kind of a value. -/
inductive Kind where
  | string
  | number
  | boolean
  | object
  | array
  | null
  | bytes
  /-- A kind that no value has, by its name. -/
  | other (name : Text)
deriving DecidableEq, Repr

namespace Kind

/-- The kinds that a field may be declared with, in the order they are listed in. -/
def declarable : List Kind := [.string, .number, .boolean, .object, .array]

/-- The name of a kind. -/
def name : Kind → Text
  | .string => "string"
  | .number => "number"
  | .boolean => "boolean"
  | .object => "object"
  | .array => "array"
  | .null => "null"
  | .bytes => "bytes"
  | .other name => name

/-- The kinds that values have. -/
def inhabited : List Kind := [.string, .number, .boolean, .object, .array, .null, .bytes]

/-- The kind with a given name. -/
def ofName (t : Text) : Kind := (inhabited.find? fun k => k.name = t).getD (.other t)

end Kind

/-- The kind of a JSON value. -/
def Json.kind : Json → Kind
  | .null => .null
  | .bool _ => .boolean
  | .int _ => .number
  | .float _ => .number
  | .str _ => .string
  | .arr _ => .array
  | .obj _ => .object

end Rulebook
