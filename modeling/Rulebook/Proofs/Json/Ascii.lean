import Rulebook.Proofs.Json.Numerals
import Rulebook.Proofs.Text.Ascii

/-!
# Written values are ASCII

A value is written with code points of ASCII alone, whatever its texts hold: inside a string everything
outside the printable part of ASCII is written by escapes, and numerals, names and layout are ASCII
(`isAscii_indented`). So every stream of the system can take a written value.
-/

set_option autoImplicit false

namespace Rulebook

namespace Text

/-- The digits of a number are ASCII. -/
theorem isAscii_ofNat (n : Nat) : IsAscii (ofNat n) :=
  isAscii_of_digits fun _ mem => Json.Grammar.isDigit_of_mem_ofNat mem

/-- The digits of an integer with its sign are ASCII. -/
theorem isAscii_ofInt (n : Int) : IsAscii (ofInt n) := by
  cases n with
  | ofNat n => exact isAscii_ofNat n
  | negSucc n => exact .append (by decide) (isAscii_ofNat (n + 1))

end Text

namespace Binary64

open Text (IsAscii isAscii_nil isAscii_ofNat isAscii_replicate)

/-- Zeros are ASCII. -/
theorem isAscii_zeros (n : Nat) : IsAscii (zeros n) := isAscii_replicate (by decide) n

/-- A sign is ASCII. -/
theorem isAscii_signText (negative : Bool) : IsAscii (signText negative) := by
  cases negative <;> decide

/-- The numeral of a decimal is ASCII if what its form puts behind a single digit is. -/
theorem Decimal.isAscii_text {form : DecimalForm} (h : IsAscii form.wholeFraction) (d : Decimal) :
    IsAscii (d.text form) := by
  have digits := isAscii_ofNat d.coefficient
  have front (n : Nat) : IsAscii ((Text.ofNat d.coefficient).splitAt n).1 := by
    rw [List.splitAt_eq]
    exact fun c mem => digits c (List.mem_of_mem_take mem)
  have back (n : Nat) : IsAscii ((Text.ofNat d.coefficient).splitAt n).2 := by
    rw [List.splitAt_eq]
    exact fun c mem => digits c (List.mem_of_mem_drop mem)
  have point : IsAscii "." := by decide
  have minus : IsAscii "-" := by decide
  have plus : IsAscii "+" := by decide
  have scientific {fraction sign : Text} (hf : fraction.IsAscii) (hs : sign.IsAscii) (n : Nat) :
      IsAscii (((Text.ofNat d.coefficient).splitAt 1).1 ++ fraction ++ "e" ++ sign ++
        zeros (2 - (Text.ofNat n).length) ++ Text.ofNat n) := by
    have mark : IsAscii "e" := by decide
    exact (((((front 1).append hf).append mark).append hs).append (isAscii_zeros _)).append
      (isAscii_ofNat n)
  unfold Decimal.text
  dsimp only
  split_ifs
  · exact (Text.IsAscii.append (by decide) (isAscii_zeros _)).append digits
  · exact (digits.append (isAscii_zeros _)).append (by decide)
  · exact ((front _).append point).append (back _)
  · exact scientific h minus _
  · exact scientific h plus _
  · exact scientific (point.append (back 1)) minus _
  · exact scientific (point.append (back 1)) plus _

/-- The text of a number is ASCII if the names for the ones that are not finite are. -/
theorem isAscii_text {names : Names} (h : IsAscii names.infinite) (h' : IsAscii names.notANumber)
    (x : Binary64) : IsAscii (x.text names) := by
  cases x with
  | finite negative mantissa exponent =>
    refine (isAscii_signText negative).append ?_
    split_ifs
    · decide
    · exact Decimal.isAscii_text isAscii_nil _
  | infinite negative => exact (isAscii_signText negative).append h
  | notANumber => exact h'

end Binary64

namespace Json

open Text (IsAscii isAscii_nil isAscii_flatMap isAscii_ofHex isAscii_ofInt isAscii_replicate)

/-- The escape of a unit is ASCII. -/
theorem isAscii_escapeUnit (unit : Nat) : IsAscii (escapeUnit unit) :=
  .append (by decide) (isAscii_ofHex 4 unit)

/-- Every code point is escaped in ASCII. -/
theorem isAscii_escape (c : CodePoint) : IsAscii (escape c) := by
  unfold escape
  split_ifs with _ _ _ _ _ _ _ printable
  -- Seven short escapes, a code point as it stands, one unit and two units.
  iterate 7 decide
  · exact .cons (by omega) isAscii_nil
  · exact isAscii_escapeUnit _
  · exact (isAscii_escapeUnit _).append (isAscii_escapeUnit _)

/-- A string is written in ASCII whatever it holds. -/
theorem isAscii_quote (t : Text) : IsAscii (quote t) := by
  have mark : IsAscii "\"" := by decide
  exact (mark.append (isAscii_flatMap fun c _ => isAscii_escape c)).append mark

/-- The end of a line and the blanks behind it are ASCII. -/
theorem isAscii_newLine (level : Nat) : IsAscii (newLine level) :=
  .append (by decide) (isAscii_replicate (by decide) _)

/-- What stands between a key and its value, and between two values. -/
theorem isAscii_marks : IsAscii ": " ∧ IsAscii "," := by decide

mutual

/-- A value is written in ASCII, whatever the level of its indentation. -/
theorem isAscii_indented (level : Nat) (v : Json) : IsAscii (v.indented level) := by
  match v with
  | .null => exact (by decide : IsAscii "null")
  | .bool true => exact (by decide : IsAscii "true")
  | .bool false => exact (by decide : IsAscii "false")
  | .int n => exact isAscii_ofInt n
  | .float x => exact Binary64.isAscii_text (by decide) (by decide) x
  | .str t => exact isAscii_quote t
  | .arr [] => exact (by decide : IsAscii "[]")
  | .arr (item :: rest) =>
    have opening : IsAscii "[" := by decide
    have closing : IsAscii "]" := by decide
    exact ((((opening.append (isAscii_newLine _)).append (isAscii_indented (level + 1) item)).append
      (isAscii_indentedItems (level + 1) rest)).append (isAscii_newLine level)).append closing
  | .obj [] => exact (by decide : IsAscii "\x7b\x7d")
  | .obj ((key, value) :: rest) =>
    have opening : IsAscii "\x7b" := by decide
    have closing : IsAscii "\x7d" := by decide
    exact ((((((opening.append (isAscii_newLine _)).append (isAscii_quote key)).append
      isAscii_marks.1).append (isAscii_indented (level + 1) value)).append
      (isAscii_indentedMembers (level + 1) rest)).append (isAscii_newLine level)).append closing

/-- Items are written in ASCII. -/
theorem isAscii_indentedItems (level : Nat) (items : List Json) :
    IsAscii (indentedItems level items) := by
  match items with
  | [] => exact isAscii_nil
  | item :: rest =>
    exact ((isAscii_marks.2.append (isAscii_newLine level)).append (isAscii_indented level item)).append
      (isAscii_indentedItems level rest)

/-- Members are written in ASCII. -/
theorem isAscii_indentedMembers (level : Nat) (members : List (Text × Json)) :
    IsAscii (indentedMembers level members) := by
  match members with
  | [] => exact isAscii_nil
  | (key, value) :: rest =>
    exact ((((isAscii_marks.2.append (isAscii_newLine level)).append (isAscii_quote key)).append
      isAscii_marks.1).append (isAscii_indented level value)).append (isAscii_indentedMembers level rest)

end

end Json

end Rulebook
