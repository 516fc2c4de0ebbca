import Rulebook.Number.Binary64
import Rulebook.Text

/-!
# Decimal numbers and their numerals

A decimal number is a coefficient times a power of ten. Its numeral is positional where the leading
digit stands near the point, and has a signed exponent of at least two digits elsewhere; how far it
is positional, and whether digits before an exponent always have a point among them, is a matter of
the form.
-/

set_option autoImplicit false

namespace Rulebook.Binary64

/-- A decimal number: a coefficient times a power of ten. -/
structure Decimal where
  /-- The digits, read as a natural number. -/
  coefficient : Nat
  /-- The power of ten. -/
  exponent : Int
deriving DecidableEq, Repr

/-- The form of a numeral. -/
structure DecimalForm where
  /-- The least power of ten that calls for an exponent. -/
  exponentFrom : Int
  /-- What follows a single digit before an exponent. -/
  wholeFraction : Text
deriving DecidableEq

/-- The power of ten of the leading digit of a positive ratio. -/
def leadingPlace (num den : Nat) : Int :=
  if den ≤ num then ((Nat.toDigits 10 (num / den)).length : Int) - 1
  else -(((List.range 400).find? fun j => den ≤ num * Nat.pow 10 j).getD 400 : Nat)

/-- A run of zeros. -/
def zeros (n : Nat) : Text := List.replicate n '0'

namespace Decimal

/-- A decimal without the zeros at the end of its coefficient; `fuel` bounds their number. -/
def withoutZeros : (fuel : Nat) → Decimal → Decimal
  | 0, d => d
  | fuel + 1, d =>
    if d.coefficient % 10 = 0 then withoutZeros fuel ⟨d.coefficient / 10, d.exponent + 1⟩ else d

/-- The numeral of a decimal with at least one digit on either side of the point, or with an
exponent where the leading digit stands behind the fourth place or where the form calls for one. -/
def text (form : DecimalForm) (d : Decimal) : Text :=
  let digits := Text.ofNat d.coefficient
  let leading : Int := (digits.length : Int) - 1 + d.exponent
  if -4 ≤ leading ∧ leading < form.exponentFrom then
    if leading < 0 then "0." ++ zeros (-leading - 1).toNat ++ digits
    else
      let whole := leading.toNat + 1
      if digits.length ≤ whole then digits ++ zeros (whole - digits.length) ++ ".0"
      else
        let (front, back) : Text × Text := digits.splitAt whole
        front ++ "." ++ back
  else
    let (front, back) : Text × Text := digits.splitAt 1
    let fraction : Text := if back = [] then form.wholeFraction else "." ++ back
    let sign : Text := if leading < 0 then "-" else "+"
    let power := Text.ofNat leading.natAbs
    front ++ fraction ++ "e" ++ sign ++ zeros (2 - power.length) ++ power

end Decimal

/-- The sign before the numeral of a number. -/
def signText (negative : Bool) : Text := if negative then "-" else []

end Rulebook.Binary64
