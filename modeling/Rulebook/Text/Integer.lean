import Rulebook.Text.Classes

/-!
# Integers written as text

A numeral in a setting or a form may stand between white space, may have a sign and may group its
digits by single underscores. A numeral of more than 4300 digits is refused. Settings take the
decimal digits of every script. Forms take ASCII digits only, but allow zeros and underscores in any
number before the digits, a minus sign before or behind these zeros, and a point with zeros at the
end.
-/

set_option autoImplicit false

namespace Rulebook.Text

/-- The digits of a numeral, a single underscore being allowed between two of them. -/
def digitRun? (digit? : CodePoint → Option Nat) : Text → Option (List Nat)
  | [] => none
  | [c] => (digit? c).map ([·])
  | c :: d :: rest =>
    match digit? c with
    | none => none
    | some n =>
      let remaining := if d = '_' then digitRun? digit? rest else digitRun? digit? (d :: rest)
      remaining.map (n :: ·)

/-- The most digits that a numeral may have. -/
def numeralLimit : Nat := 4300

/-- A numeral: a sign and the digits. -/
structure Numeral where
  negative : Bool
  digits : List Nat
deriving DecidableEq, Repr

namespace Numeral

/-- The integer that a numeral denotes. -/
def value (n : Numeral) : Int :=
  let magnitude : Int := (n.digits.foldl (fun sum d => 10 * sum + d) 0 : Nat)
  if n.negative then -magnitude else magnitude

end Numeral

/-- The numeral of a setting. -/
def settingNumeral? (t : Text) : Option Numeral :=
  let (negative, unsigned) := signed (t.trim CodePoint.isWhiteSpace)
  (digitRun? CodePoint.decimalValue? unsigned).map fun digits => { negative, digits }

/-- The integer that a setting denotes, if it has not too many digits. -/
def settingInteger? (t : Text) : Option Int :=
  match t.settingNumeral? with
  | none => none
  | some n => if numeralLimit < n.digits.length then none else some n.value

/-! ## Forms -/

/-- The number that one of the digits `0` to `9` stands for. -/
def asciiDigit? (c : CodePoint) : Option Nat := if c.isDigit then some c.digitValue else none

/-- A text behind its minus sign, if it has one, and whether it has. -/
def cutMinus : Text → Bool × Text
  | [] => (false, [])
  | c :: rest => if c = '-' then (true, rest) else (false, c :: rest)

/-- The numeral of a text that is nothing else: a minus sign or none, and digits of which the first
is no zero unless it stands alone. -/
def plainNumeral? (t : Text) : Option Numeral :=
  let (negative, unsigned) := cutMinus t
  match unsigned.mapM asciiDigit? with
  | none => none
  | some [] => none
  | some [d] => some { negative, digits := [d] }
  | some (d :: digits) => if d = 0 then none else some { negative, digits := d :: digits }

/-- Whether a text begins with a plain numeral that has more digits than a numeral may have. -/
def beginsOversized (t : Text) : Bool :=
  let digits := (cutMinus t).2.takeWhile CodePoint.isDigit
  digits.head? != some ('0' : CodePoint) && numeralLimit < digits.length

/-- What follows the zeros and underscores that a numeral goes on with behind its first zero. A
point keeps the code point before it, and so does the end of the text. -/
def dropZeros (last : CodePoint) : Text → Option Text
  | [] => some [last]
  | c :: rest =>
    if c = '0' ∨ c = '_' then dropZeros c rest
    else if c = '.' then some (last :: c :: rest)
    else if c = '-' ∨ c.isDigit then some (c :: rest)
    else none

/-- A text that begins with a digit or a minus sign, without needless zeros at its beginning. -/
def dropLeadingZeros? : Text → Option Text
  | [] => none
  | c :: rest =>
    if c = '0' then dropZeros c rest
    else if c = '-' ∨ c.isDigit then some (c :: rest)
    else none

/-- A text without the point and the zeros at its end. -/
def dropZeroFraction (t : Text) : Text :=
  match t.cutAt '.' with
  | (before, some (zero :: zeros)) =>
    if (zero :: zeros).all (· = ('0' : CodePoint)) then before else t
  | _ => t

/-- Whether two underscores stand side by side. -/
def hasDoubleUnderscore : Text → Bool
  | c :: d :: rest => (c = '_' && d = '_') || hasDoubleUnderscore (d :: rest)
  | _ => false

/-- A text without its underscores, unless one of them begins or ends it or stands beside
another. -/
def dropUnderscores (t : Text) : Text :=
  let underscore : CodePoint := '_'
  if t.head? = some underscore ∨ t.getLast? = some underscore ∨ hasDoubleUnderscore t then t
  else t.filter (· ≠ underscore)

/-- A text without its plus sign. There is none if a minus sign follows it. -/
def dropPlus? (t : Text) : Option Text :=
  match dropPrefix? "+" t with
  | none => some t
  | some rest => if rest.head? = some ('-' : CodePoint) then none else some rest

/-- A text without what may adorn a numeral of a form: white space around it, a plus sign, zeros and
underscores before its digits, a point with zeros behind it, underscores inside. -/
def unadorned? (t : Text) : Option Text :=
  let (negative, unsigned) := cutMinus (t.trim CodePoint.isWhiteSpace)
  let significant := (if negative then some unsigned else dropPlus? unsigned).bind dropLeadingZeros?
  significant.map fun numeral =>
    let bare := dropUnderscores (dropZeroFraction numeral)
    if negative then '-' :: bare else bare

/-- What a text says where a form asks for an integer. -/
inductive FormInteger where
  | value (n : Int)
  | oversized
  | unreadable
deriving DecidableEq, Repr

/-- The integer of a form: a plain numeral as it is, any other text by what it is without its
adornments. Only a numeral that is too long as it is written counts as oversized. -/
def formInteger (t : Text) : FormInteger :=
  if beginsOversized t then .oversized
  else
    match plainNumeral? t with
    | some n => .value n.value
    | none =>
      match unadorned? t with
      | none => .unreadable
      | some bare =>
        if beginsOversized bare then .unreadable
        else
          match plainNumeral? bare with
          | some n => .value n.value
          | none => .unreadable

end Rulebook.Text
