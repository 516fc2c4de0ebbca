import Rulebook.Json
import Rulebook.Number.Rounded
import Rulebook.Text.Classes

/-!
# Columns

What a value counts as where it is kept in a column of the registry or compared with one. A column
of integers keeps a numeral as the number that it denotes and a number without a fraction as an
integer, and whatever else there is as it is. A column of texts keeps a number as its numeral. No
column takes an integer of more than 64 bits, a text that cannot be encoded, a list or an object.
-/

set_option autoImplicit false

namespace Rulebook

/-- Why the registry refuses what it is asked for. -/
inductive StoreFault where
  /-- A document with the name and the version is there already. -/
  | duplicate
  /-- A field that every record has would have no value. -/
  | nullField
  /-- An integer does not fit in 64 bits. -/
  | outOfRange
  /-- A text holds a surrogate without a partner. -/
  | unencodable
  /-- A list or an object is given where a column takes neither. -/
  | unsupported
deriving DecidableEq, Repr

namespace Registry

/-- The least integer that is too large for 64 bits with a sign. -/
def integerBound : Int := 0x8000000000000000

/-- Whether an integer fits in 64 bits with a sign. -/
def fits (n : Int) : Bool := -integerBound ≤ n && n < integerBound

end Registry

/-- What a column of integers keeps. -/
inductive Cell where
  | integer (n : Int)
  | float (x : Binary64)
  | text (t : Text)
deriving DecidableEq

namespace Cell

/-- A cell as a value. -/
def toJson : Cell → Json
  | integer n => .int n
  | float x => .float x
  | text t => .str t

/-- The cell of a number: an integer if it has no fraction and lies strictly between the bounds of
64 bits. -/
def ofFloat (x : Binary64) : Cell :=
  match x.wholeValue? with
  | some n => if -Registry.integerBound < n ∧ n < Registry.integerBound then integer n else float x
  | none => float x

/-- Whether two cells hold the same: cells are made such that an integer and a number with the same
value are told apart only at the lower bound of 64 bits. -/
def same : Cell → Cell → Bool
  | integer n, float x => x.wholeValue? = some n
  | float x, integer n => x.wholeValue? = some n
  | a, b => a = b

/-! ## Numerals -/

/-- The integer that digits with a sign or none denote. -/
def integer? (t : Text) : Option Int :=
  let (negative, digits) := Text.signed t
  let magnitude : Int := digits.digitsValue
  if digits ≠ [] ∧ digits.all CodePoint.isDigit then
    some (if negative then -magnitude else magnitude)
  else none

/-- The power of ten that what follows the digits of a numeral multiplies it with. -/
def power? : Text → Option Int
  | [] => some 0
  | c :: rest => if c = 'e' ∨ c = 'E' then integer? rest else none

/-- The digits behind the point of a numeral, if it has one, and what follows them. -/
def fractionDigits (t : Text) : Text × Text :=
  match Text.dropPrefix? "." t with
  | some behind => (behind.takeWhile CodePoint.isDigit, behind.dropWhile CodePoint.isDigit)
  | none => ([], t)

/-- The coefficient above which no more digits of a numeral count. -/
def coefficientBound : Nat := 0x1999999999999998

/-- The number that digits denote as far as they count, and how many do not count. -/
def coefficient (digits : Text) : Nat × Nat :=
  digits.foldl
    (fun (n, left) c =>
      if n < coefficientBound then (10 * n + c.digitValue, left) else (n, left + 1))
    (0, 0)

/-- The number nearest to a numeral with a point, an exponent, both or neither. -/
def number? (t : Text) : Option Binary64 :=
  let (negative, unsigned) := Text.signed t
  let (fraction, behind) := fractionDigits (unsigned.dropWhile CodePoint.isDigit)
  let digits := unsigned.takeWhile CodePoint.isDigit ++ fraction
  if digits = [] then none
  else
    let (n, left) := coefficient digits
    (power? behind).map fun power =>
      Binary64.ofDecimal negative n (power - (fraction.length : Int) + (left : Int))

/-- The cell of a text. -/
def ofText (t : Text) : Cell :=
  let bare := t.trim CodePoint.isAsciiBlank
  match number? bare, integer? bare with
  | none, _ => text t
  | some x, none => ofFloat x
  | some x, some n => if Registry.fits n then integer n else ofFloat x

end Cell

namespace Column

/-- What a column of integers keeps of a value, if it keeps any. -/
def integer : Json → Except StoreFault (Option Cell)
  | .int n => if Registry.fits n then .ok (some (.integer n)) else .error .outOfRange
  | .bool b => .ok (some (.integer (if b then 1 else 0)))
  | .float .notANumber => .ok none
  | .float x => .ok (some (.ofFloat x))
  | .str t => if t.isEncodable then .ok (some (.ofText t)) else .error .unencodable
  | .null => .ok none
  | .arr _ => .error .unsupported
  | .obj _ => .error .unsupported

/-- What a column of texts keeps of a value, if it keeps any. -/
def text : Json → Except StoreFault (Option Text)
  | .str t => if t.isEncodable then .ok (some t) else .error .unencodable
  | .int n => if Registry.fits n then .ok (some (Text.ofInt n)) else .error .outOfRange
  | .bool b => .ok (some (if b then "1" else "0"))
  | .float .notANumber => .ok none
  | .float x => .ok (some x.roundedText)
  | .null => .ok none
  | .arr _ => .error .unsupported
  | .obj _ => .error .unsupported

end Column

end Rulebook
