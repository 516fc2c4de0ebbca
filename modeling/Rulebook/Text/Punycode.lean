import Rulebook.Text

/-!
# Punycode

A way to write a text in letters, digits and hyphens of ASCII: first the code points of ASCII that
the text has, then, behind a hyphen, one number for each of the others. A number tells how far the
next code point is away from the last one, in a count that runs through all places of the text for
one code point after the other. It is written with the least place first, in 36 digits; which digits
end it depends on the place and on a bias that follows the numbers before.
-/

set_option autoImplicit false

namespace Rulebook.Punycode

/-- The first digit that does not end a number at a place. -/
def threshold (bias place : Nat) : Nat := max 1 (min 26 (36 * (place + 1) - bias))

/-- The digits of a number from a place on. -/
def digits (bias : Nat) : (fuel place n : Nat) → List Nat
  | 0, _, n => [n]
  | fuel + 1, place, n =>
    let limit := threshold bias place
    if n < limit then [n]
    else (limit + (n - limit) % (36 - limit)) ::
      digits bias fuel (place + 1) ((n - limit) / (36 - limit))

/-- The bias of a number that is to be written in few digits, `places` being the digits counted so
far times 36. -/
def spread : (fuel places n : Nat) → Nat
  | 0, places, n => places + 36 * n / (n + 38)
  | fuel + 1, places, n =>
    if 455 < n then spread fuel (places + 36) (n / 35) else places + 36 * n / (n + 38)

/-- The bias behind a number, with the number of code points that are there then. The first number
says little of those to come. -/
def adapt (isFirst : Bool) (n count : Nat) : Nat :=
  let damped := if isFirst then n / 700 else n / 2
  let n := damped + damped / count
  spread n.log2 0 n

/-- The bias before the first number. -/
def firstBias : Nat := 72

/-- The least number of a code point that is not of ASCII. -/
def firstNumber : Nat := 0x80

/-! ## Writing -/

/-- A text that is being written. -/
structure Writer where
  /-- How many digits are written. -/
  length : Nat
  /-- The count since the last number. -/
  delta : Nat
  /-- The bias of the next number. -/
  bias : Nat
  /-- How many code points are written. -/
  count : Nat
  /-- Whether no number is written yet. -/
  isFirst : Bool

/-- Passes a place of the text while the count runs for a code point. -/
def Writer.pass (number : Nat) (w : Writer) (c : CodePoint) : Writer :=
  if c.val < number then { w with delta := w.delta + 1 }
  else if c.val = number then
    { length := w.length + (digits w.bias (w.delta.log2 + 1) 0 w.delta).length
      delta := 0
      bias := adapt w.isFirst w.delta (w.count + 1)
      count := w.count + 1
      isFirst := false }
  else w

/-- Lets the count run for code points in ascending order, from a number on. -/
def Writer.run (t : Text) (w : Writer) (number : Nat) : List Nat → Writer
  | [] => w
  | next :: rest =>
    let reached := { w with delta := w.delta + (next - number) * (w.count + 1) }
    let passed := t.foldl (Writer.pass next) reached
    Writer.run t { passed with delta := passed.delta + 1 } (next + 1) rest

/-- How many code points it takes to write a text. -/
def length (t : Text) : Nat :=
  let plain := t.countP fun c => c.val < firstNumber
  let others := ((t.map Fin.val).filter (firstNumber ≤ ·)).mergeSort.eraseDups
  let w : Writer :=
    { length := if plain = 0 then 0 else plain + 1
      delta := 0
      bias := firstBias
      count := plain
      isFirst := true }
  (w.run t firstNumber others).length

/-! ## Reading -/

/-- The number that a digit stands for: letters count before digits. -/
def digitValue? (c : CodePoint) : Option Nat :=
  let c := c.toLowerAscii
  if 0x61 ≤ c.val ∧ c.val ≤ 0x7A then some (c.val - 0x61)
  else if c.isDigit then some (c.digitValue + 26)
  else none

/-- Reads a number from a place on, and gives the text behind it. -/
def readNumber? (bias place weight sum : Nat) : Text → Option (Nat × Text)
  | [] => none
  | c :: rest =>
    match digitValue? c with
    | none => none
    | some d =>
      let limit := threshold bias place
      if d < limit then some (sum + d * weight, rest)
      else readNumber? bias (place + 1) (weight * (36 - limit)) (sum + d * weight) rest

/-- A text that is being read. -/
structure Reading where
  /-- The code points that are read. -/
  read : Text
  /-- The number of the code point that the count runs for. -/
  number : Nat
  /-- The place that the count has reached, which is 0 only before the first number. -/
  place : Nat
  /-- The bias of the next number. -/
  bias : Nat

/-- The number after the last code point. -/
def numberBound : Nat := 0x110000

/-- Reads numbers and puts in the code points that they stand for; `fuel` bounds how many there
are. -/
def readFrom? (r : Reading) : (fuel : Nat) → Text → Option Text
  | _, [] => some r.read
  | 0, _ => none
  | fuel + 1, t =>
    match readNumber? r.bias 0 1 0 t with
    | none => none
    | some (delta, rest) =>
      let count := r.read.length + 1
      let number := r.number + (r.place + delta) / count
      let place := (r.place + delta) % count
      if numberBound ≤ number then none
      else
        let after : Reading :=
          { read := r.read.take place ++ CodePoint.ofNat number :: r.read.drop place
            number
            place := place + 1
            bias := adapt (r.place = 0) delta count }
        readFrom? after fuel rest

/-- The text that is written as a text of ASCII, if one is. -/
def decode? (t : Text) : Option Text :=
  let hyphen : CodePoint := '-'
  let numbers := (t.reverse.takeWhile (· ≠ hyphen)).reverse
  let plain := t.take (t.length - numbers.length - 1)
  let start : Reading := { read := plain, number := firstNumber, place := 0, bias := firstBias }
  readFrom? start numbers.length numbers

end Rulebook.Punycode
