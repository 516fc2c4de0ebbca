import Rulebook.Text

/-!
# Classes of code points

White space in two readings and the decimal digits of every script. Unicode's own property
`White_Space` leaves out the four information separators U+001C to U+001F; the wider class of
blanks takes them in. The ten decimal digits of a script stand side by side from its zero on, so
the class is given by the zeros alone.
-/

set_option autoImplicit false

namespace Rulebook.CodePoint

/-- Unicode's property `White_Space`. -/
def isWhiteSpace (c : CodePoint) : Bool :=
  (0x9 ≤ c.val && c.val ≤ 0xD) || c.val == 0x20 || c.val == 0x85 || c.val == 0xA0 ||
    c.val == 0x1680 || (0x2000 ≤ c.val && c.val ≤ 0x200A) || c.val == 0x2028 ||
    c.val == 0x2029 || c.val == 0x202F || c.val == 0x205F || c.val == 0x3000

/-- White space and the information separators U+001C to U+001F. -/
def isBlank (c : CodePoint) : Bool :=
  c.isWhiteSpace || (0x1C ≤ c.val && c.val ≤ 0x1F)

/-- A blank of ASCII: a space, a tabulator or the end of a line or a page. -/
def isAsciiBlank (c : CodePoint) : Bool := c.val == 0x20 || (0x9 ≤ c.val && c.val ≤ 0xD)

/-- The two code points that end a line: line feed and carriage return. -/
def isLineEnd (c : CodePoint) : Bool := c.val == 0xA || c.val == 0xD

/-- A blank inside a line: one that is no line feed and no carriage return. -/
def isInlineBlank (c : CodePoint) : Bool := c.isBlank && !c.isLineEnd

/-- The zeros of the scripts that have decimal digits (Unicode 14). -/
def decimalZeros : List Nat := [
  0x30, 0x660, 0x6F0, 0x7C0, 0x966, 0x9E6, 0xA66, 0xAE6, 0xB66, 0xBE6, 0xC66, 0xCE6, 0xD66,
  0xDE6, 0xE50, 0xED0, 0xF20, 0x1040, 0x1090, 0x17E0, 0x1810, 0x1946, 0x19D0, 0x1A80, 0x1A90,
  0x1B50, 0x1BB0, 0x1C40, 0x1C50, 0xA620, 0xA8D0, 0xA900, 0xA9D0, 0xA9F0, 0xAA50, 0xABF0,
  0xFF10, 0x104A0, 0x10D30, 0x11066, 0x110F0, 0x11136, 0x111D0, 0x112F0, 0x11450, 0x114D0,
  0x11650, 0x116C0, 0x11730, 0x118E0, 0x11950, 0x11C50, 0x11D50, 0x11DA0, 0x16A60, 0x16AC0,
  0x16B50, 0x1D7CE, 0x1D7D8, 0x1D7E2, 0x1D7EC, 0x1D7F6, 0x1E140, 0x1E2F0, 0x1E950, 0x1FBF0]

/-- The number that a decimal digit of any script stands for. -/
def decimalValue? (c : CodePoint) : Option Nat :=
  (decimalZeros.find? fun first => first ≤ c.val && c.val < first + 10).map (c.val - ·)

end Rulebook.CodePoint

namespace Rulebook.Text

/-- A text without the code points of a class at its two ends. -/
def trim (isSpace : CodePoint → Bool) (t : Text) : Text :=
  ((t.dropWhile isSpace).reverse.dropWhile isSpace).reverse

/-- A text without the code points of a class at its end. -/
def trimEnd (isSpace : CodePoint → Bool) (t : Text) : Text :=
  (t.reverse.dropWhile isSpace).reverse

end Rulebook.Text
