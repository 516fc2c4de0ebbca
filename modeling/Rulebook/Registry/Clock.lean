import Rulebook.Text

/-!
# The clock

Every document and every record of the audit log carries the time at which it is written. A request that
stores a document reads the clock twice, first for the document and then for the record of it. Times are
kept and shown, and nothing else that the registry does depends on them.
-/

set_option autoImplicit false

namespace Rulebook

/-- A time by the calendar and the clock. Each part has its number of digits. -/
@[ext]
structure Time where
  year : Fin 10000 := 1970
  month : Fin 13 := 1
  day : Fin 32 := 1
  hour : Fin 24 := 0
  minute : Fin 60 := 0
  second : Fin 60 := 0
  microsecond : Fin 1000000 := 0
deriving DecidableEq, Repr

/-- The last decimal digits of a number. -/
def Text.ofDigits : (width : Nat) → Nat → Text
  | 0, _ => []
  | width + 1, n => ofDigits width (n / 10) ++ [CodePoint.ofNat (0x30 + n % 10)]

namespace Time

/-- The time from which clocks count. -/
def epoch : Time := {}

/-- The fraction of a second as answers show it, if there is one. -/
def fraction (microsecond : Fin 1000000) : Text :=
  if microsecond = 0 then [] else "." ++ Text.ofDigits 6 microsecond

/-- A time as answers show it. -/
def text (t : Time) : Text :=
  Text.ofDigits 4 t.year ++ "-" ++ Text.ofDigits 2 t.month ++ "-" ++ Text.ofDigits 2 t.day ++ "T" ++
    Text.ofDigits 2 t.hour ++ ":" ++ Text.ofDigits 2 t.minute ++ ":" ++ Text.ofDigits 2 t.second ++
      fraction t.microsecond

end Time

/-- What the clock shows while a request is answered. -/
structure Clock where
  /-- When a document is stored. -/
  stored : Time := .epoch
  /-- When a record is written. -/
  recorded : Time := .epoch
deriving DecidableEq, Repr

end Rulebook
