import Rulebook.Json
import Rulebook.Number.Shortest
import Rulebook.Text.Quoted

/-!
# Literals

The form in which a message shows a value that is at fault: texts are quoted, truth values and null
have capital names, and infinity is `inf`. Lists and objects show all they hold.
-/

set_option autoImplicit false

namespace Rulebook.Json

/-- The names that literals give to numbers without a numeral. -/
def literalNames : Binary64.Names := { infinite := "inf", notANumber := "nan" }

mutual

/-- The literal of a value. -/
def literal : Json → Text
  | .null => "None"
  | .bool true => "True"
  | .bool false => "False"
  | .int n => Text.ofInt n
  | .float x => x.text literalNames
  | .str t => t.quoted
  | .arr items => "[" ++ literalItems items ++ "]"
  | .obj members => "\x7b" ++ literalMembers members ++ "\x7d"

/-- The literals of list items, separated by a comma and a blank. -/
def literalItems : List Json → Text
  | [] => []
  | [item] => item.literal
  | item :: next :: rest => item.literal ++ ", " ++ literalItems (next :: rest)

/-- The literals of members, separated by a comma and a blank. -/
def literalMembers : List (Text × Json) → Text
  | [] => []
  | [(key, value)] => key.quoted ++ ": " ++ value.literal
  | (key, value) :: next :: rest =>
    key.quoted ++ ": " ++ value.literal ++ ", " ++ literalMembers (next :: rest)

end

/-- A value as a part of a message: a text as it is, any other value as its literal. -/
def shown : Json → Text
  | .str t => t
  | v => v.literal

end Rulebook.Json
