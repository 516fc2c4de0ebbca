import Rulebook.Text.Printable

/-!
# Quoted text

The form in which messages quote a text. It stands in single quotes, or in double quotes if it
holds a single quote and no double one. Inside, the backslash and the quote in use are escaped by a
backslash, line feed, carriage return and tabulator by their letters, and every other code point
that is not printable by its hexadecimal number in two, four or eight digits.
-/

set_option autoImplicit false

namespace Rulebook.Text

/-- The quote that a text is put in. -/
def quoteFor (t : Text) : CodePoint :=
  let single : CodePoint := '\''
  let double : CodePoint := '"'
  if t.contains single && !t.contains double then double else single

/-- A code point by its hexadecimal number, in two, four or eight digits. -/
def numberEscape (c : CodePoint) : Text :=
  if c.val < 0x100 then "\\x" ++ ofHex 2 c.val
  else if c.val < 0x10000 then "\\u" ++ ofHex 4 c.val
  else "\\U" ++ ofHex 8 c.val

/-- The written form of a code point between quotes of a given kind. -/
def quotedCodePoint (quote c : CodePoint) : Text :=
  if c = quote ∨ c = '\\' then ['\\', c]
  else if c = '\t' then "\\t"
  else if c = '\n' then "\\n"
  else if c = '\r' then "\\r"
  else if c.isPrintable then [c]
  else numberEscape c

/-- The quoted form of a text. -/
def quoted (t : Text) : Text :=
  let quote := t.quoteFor
  [quote] ++ t.flatMap (quotedCodePoint quote) ++ [quote]

end Rulebook.Text
