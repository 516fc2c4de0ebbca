import Rulebook.Json
import Rulebook.Number.Shortest

/-!
# JSON text

Two written forms of a value, both of them ASCII: on one line, with a blank after each comma and
colon, and indented by two blanks a level. In a string the quote, the backslash and five controls
have a short escape; every other code point outside U+0020 to U+007E is written as its UTF-16 units,
each an escape with four hexadecimal digits in lower case. Infinity and undefined numbers, which
strict JSON has no numeral for, are written by name.
-/

set_option autoImplicit false

namespace Rulebook.Json

/-- The names that JSON text gives to numbers without a numeral. -/
def numberNames : Binary64.Names := { infinite := "Infinity", notANumber := "NaN" }

/-- The escape of a UTF-16 unit. -/
def escapeUnit (unit : Nat) : Text := "\\u" ++ Text.ofHex 4 unit

/-- The written form of a code point inside a string. -/
def escape (c : CodePoint) : Text :=
  if c = '"' then "\\\""
  else if c = '\\' then "\\\\"
  else if c = '\n' then "\\n"
  else if c = '\r' then "\\r"
  else if c = '\t' then "\\t"
  else if c.val = 0x8 then "\\b"
  else if c.val = 0xC then "\\f"
  else if 0x20 ≤ c.val ∧ c.val ≤ 0x7E then [c]
  else if c.val < 0x10000 then escapeUnit c.val
  else
    let offset := c.val - 0x10000
    escapeUnit (0xD800 + offset / 0x400) ++ escapeUnit (0xDC00 + offset % 0x400)

/-- The written form of a string. -/
def quote (t : Text) : Text := "\"" ++ t.flatMap escape ++ "\""

mutual

/-- The text of a value on one line. -/
def text : Json → Text
  | .null => "null"
  | .bool true => "true"
  | .bool false => "false"
  | .int n => Text.ofInt n
  | .float x => x.text numberNames
  | .str t => quote t
  | .arr items => "[" ++ textItems items ++ "]"
  | .obj members => "\x7b" ++ textMembers members ++ "\x7d"

/-- The texts of list items, separated by a comma and a blank. -/
def textItems : List Json → Text
  | [] => []
  | [item] => item.text
  | item :: next :: rest => item.text ++ ", " ++ textItems (next :: rest)

/-- The texts of members, separated by a comma and a blank. -/
def textMembers : List (Text × Json) → Text
  | [] => []
  | [(key, value)] => quote key ++ ": " ++ value.text
  | (key, value) :: next :: rest =>
    quote key ++ ": " ++ value.text ++ ", " ++ textMembers (next :: rest)

end

/-- The beginning of a line at an indentation level. -/
def newLine (level : Nat) : Text := "\n" ++ (List.replicate (2 * level) ' ' : Text)

mutual

/-- The text of a value with each item and member on a line of its own. -/
def indented (level : Nat) : Json → Text
  | .arr [] => "[]"
  | .arr (item :: rest) =>
    "[" ++ newLine (level + 1) ++ item.indented (level + 1) ++ indentedItems (level + 1) rest ++
      newLine level ++ "]"
  | .obj [] => "\x7b\x7d"
  | .obj ((key, value) :: rest) =>
    "\x7b" ++ newLine (level + 1) ++ quote key ++ ": " ++ value.indented (level + 1) ++
      indentedMembers (level + 1) rest ++ newLine level ++ "\x7d"
  | .null => "null"
  | .bool true => "true"
  | .bool false => "false"
  | .int n => Text.ofInt n
  | .float x => x.text numberNames
  | .str t => quote t

/-- The items after the first, each behind a comma and a line break. -/
def indentedItems (level : Nat) : List Json → Text
  | [] => []
  | item :: rest => "," ++ newLine level ++ item.indented level ++ indentedItems level rest

/-- The members after the first, each behind a comma and a line break. -/
def indentedMembers (level : Nat) : List (Text × Json) → Text
  | [] => []
  | (key, value) :: rest =>
    "," ++ newLine level ++ quote key ++ ": " ++ value.indented level ++
      indentedMembers level rest

end

end Rulebook.Json
