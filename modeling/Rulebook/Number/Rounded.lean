import Rulebook.Number.Decimal

/-!
# Numerals of at most fifteen digits

The numeral under which a column of texts keeps a binary64 number: the nearest one with fifteen
digits, a tie going away from zero, without the zeros at its end. Zero has no sign.
-/

set_option autoImplicit false

namespace Rulebook.Binary64

/-- The nearest decimal with fifteen digits to `mantissa * 2 ^ exponent`, for a positive mantissa, a
tie going up. -/
def rounded (mantissa : Nat) (exponent : Int) : Decimal :=
  let (num, den) := scaleDown mantissa 1 (-exponent)
  let place := leadingPlace num den - 14
  let step := num * Nat.pow 10 (-place).toNat
  let grid := den * Nat.pow 10 place.toNat
  ⟨(2 * step + grid) / (2 * grid), place⟩

/-- The form of the numerals that a column keeps: positional below ten to the 15th, and a point
among the digits before an exponent. -/
def roundedForm : DecimalForm := { exponentFrom := 15, wholeFraction := ".0" }

/-- The text under which a column keeps a number. -/
def roundedText : Binary64 → Text
  | .finite negative mantissa exponent =>
    if mantissa = 0 then "0.0"
    else signText negative ++ ((rounded mantissa exponent).withoutZeros 15).text roundedForm
  | .infinite negative => signText negative ++ "Inf"
  | .notANumber => "NaN"

end Rulebook.Binary64
