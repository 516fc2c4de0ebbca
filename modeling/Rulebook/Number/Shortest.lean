import Rulebook.Number.Decimal

/-!
# The shortest decimal numeral of a binary64 number

The numeral of a finite number has the fewest digits that read back as that number, and among
those it is the nearest one. The reals that round to `m * 2 ^ e` form an interval, whose ends belong
to it exactly when `m` is even. On one decimal grid after the other, each ten times as fine, the
two neighbours of the number are tested against the interval; the first grid with a hit decides.
The coarsest grid is the power of ten above the number, and seventeen digits always suffice. A
decimal exponent from -4 to 15 is written positionally, any other with a signed exponent of at least
two digits.
-/

set_option autoImplicit false

namespace Rulebook.Binary64

/-- The reals that round to a number, in quarters of a unit of its last place. -/
structure Interval where
  /-- The lower end. -/
  lower : Nat
  /-- The number itself. -/
  middle : Nat
  /-- The upper end. -/
  upper : Nat
  /-- Whether the ends belong to the interval. -/
  closed : Bool

/-- The interval around `mantissa * 2 ^ exponent`. Below a power of two the numbers lie twice as
dense, so there the lower end is half as far away. -/
def interval (mantissa : Nat) (exponent : Int) : Interval :=
  { lower := 4 * mantissa - (if mantissa = leastMantissa ∧ leastExponent < exponent then 1 else 2)
    middle := 4 * mantissa
    upper := 4 * mantissa + 2
    closed := mantissa % 2 = 0 }

/-- The grid point with the given power of ten that lies in an interval, if one of the two
neighbours of its middle does: the nearer one, a tie going to the even coefficient. `unit` is the
exponent of two that the interval counts in. -/
def onGrid? (i : Interval) (unit place : Int) : Option Decimal :=
  let grid := Nat.pow 10 place.toNat * Nat.pow 2 (-unit).toNat
  let step := Nat.pow 10 (-place).toNat * Nat.pow 2 unit.toNat
  let below := i.middle * step / grid
  let above := below + 1
  let inside (c : Nat) : Bool :=
    if i.closed then i.lower * step ≤ c * grid && c * grid ≤ i.upper * step
    else i.lower * step < c * grid && c * grid < i.upper * step
  let downward := i.middle * step - below * grid
  let upward := above * grid - i.middle * step
  if inside below then
    if inside above && (upward < downward || (upward = downward && above % 2 = 0)) then
      some ⟨above, place⟩
    else some ⟨below, place⟩
  else if inside above then some ⟨above, place⟩
  else none

/-- The shortest decimal that reads back as `mantissa * 2 ^ exponent`, for a positive mantissa. -/
def shortest (mantissa : Nat) (exponent : Int) : Decimal :=
  let i := interval mantissa exponent
  let unit := exponent - 2
  let (num, den) := scaleDown mantissa 1 (-exponent)
  let leading := leadingPlace num den
  let found := (List.range 18).findSome? fun (n : Nat) => onGrid? i unit (leading + 1 - (n : Int))
  found.getD ⟨num, 0⟩

/-- The form of the shortest numerals: positional below ten to the 16th, and a single digit before
an exponent stands alone. -/
def shortestForm : DecimalForm := { exponentFrom := 16, wholeFraction := [] }

/-- How a notation names the numbers that have no numeral. -/
structure Names where
  /-- The name of positive infinity. -/
  infinite : Text
  /-- The name of an undefined result. -/
  notANumber : Text

/-- The text of a number in a notation with the given names. -/
def text (names : Names) : Binary64 → Text
  | .finite negative mantissa exponent =>
    let magnitude : Text :=
      if mantissa = 0 then "0.0" else (shortest mantissa exponent).text shortestForm
    signText negative ++ magnitude
  | .infinite negative => signText negative ++ names.infinite
  | .notANumber => names.notANumber

end Rulebook.Binary64
