/-!
# Binary64 numbers

A floating-point number is kept exactly: a finite one as a sign, a mantissa and a power of two.
This file holds the type, correct rounding of a ratio and of a decimal numeral (to nearest, a tie
to the even mantissa, too large becomes infinite), and the test for a whole value. Rounding is
arithmetic on natural numbers; the machine's own floating point takes no part in it.
-/

set_option autoImplicit false

namespace Rulebook

/-- A binary64 number. A finite one is the mantissa times two to the exponent; rounding gives
either a mantissa of 53 bits or the least exponent. -/
inductive Binary64 where
  | finite (negative : Bool) (mantissa : Nat) (exponent : Int)
  | infinite (negative : Bool)
  | notANumber
deriving DecidableEq, Repr

namespace Binary64

/-- The exponent of the smallest positive number. -/
def leastExponent : Int := -1074

/-- The exponent of the largest finite numbers. -/
def greatestExponent : Int := 971

/-- The least mantissa of 53 bits. -/
def leastMantissa : Nat := 0x10000000000000

/-- The least natural number with more than 53 bits. -/
def mantissaBound : Nat := 0x20000000000000

/-- Zero of either sign. -/
def zero (negative : Bool) : Binary64 := .finite negative 0 leastExponent

/-- Whether a number is neither infinite nor undefined. -/
def isFinite : Binary64 → Bool
  | .finite .. => true
  | _ => false

/-- The natural number nearest to a ratio, a tie going to the even neighbour. -/
def roundDiv (num den : Nat) : Nat :=
  let quotient := num / den
  let rest := num % den
  if 2 * rest < den then quotient
  else if den < 2 * rest then quotient + 1
  else if quotient % 2 = 0 then quotient
  else quotient + 1

/-- A ratio divided by a power of two, as a ratio. -/
def scaleDown (num den : Nat) (exponent : Int) : Nat × Nat :=
  (num * Nat.pow 2 (-exponent).toNat, den * Nat.pow 2 exponent.toNat)

/-- The exponent at which a positive ratio has a mantissa of 53 bits, or the least one. -/
def targetExponent (num den : Nat) : Int :=
  let guess : Int := (num.log2 : Int) - (den.log2 : Int) - 52
  let scaled := scaleDown num den guess
  let exact := if scaled.1 / scaled.2 < leastMantissa then guess - 1 else guess
  max exact leastExponent

/-- The number nearest to a ratio with a positive denominator. -/
def ofRatio (negative : Bool) (num den : Nat) : Binary64 :=
  if num = 0 then zero negative
  else
    let exponent := targetExponent num den
    let scaled := scaleDown num den exponent
    let mantissa := roundDiv scaled.1 scaled.2
    let (mantissa, exponent) :=
      if mantissa = mantissaBound then (leastMantissa, exponent + 1) else (mantissa, exponent)
    if greatestExponent < exponent then .infinite negative
    else .finite negative mantissa exponent

/-- The number nearest to `digits` times ten to the `scale`. Numerals whose leading digit stands
beyond the 310th place before the point are infinite, and those whose leading digit stands beyond
the 330th place behind it are zero, so no power of ten is larger than the digits call for. -/
def ofDecimal (negative : Bool) (digits : Nat) (scale : Int) : Binary64 :=
  if digits = 0 then zero negative
  else
    let top : Int := ((Nat.toDigits 10 digits).length : Int) + scale
    if 310 < top then .infinite negative
    else if top < -330 then zero negative
    else ofRatio negative (digits * Nat.pow 10 scale.toNat) (Nat.pow 10 (-scale).toNat)

/-- The integer that a number without a fraction stands for. -/
def wholeValue? : Binary64 → Option Int
  | .finite negative mantissa exponent =>
    let magnitude : Option Nat :=
      let (num, den) := scaleDown mantissa 1 (-exponent)
      if num % den = 0 then some (num / den) else none
    magnitude.map fun n => if negative then -(n : Int) else (n : Int)
  | _ => none

/-- The greatest integer that is not beyond a finite number. -/
def floor? : Binary64 → Option Int
  | .finite negative mantissa exponent =>
    let (num, den) := scaleDown mantissa 1 (-exponent)
    some (Int.fdiv (if negative then -(num : Int) else (num : Int)) den)
  | _ => none

end Binary64

end Rulebook
