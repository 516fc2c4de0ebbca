import Rulebook.Text.Integer

/-!
# Environment and settings

The environment binds names to texts. Settings are read from it: the address of the database, the
depth down to which rules are allowed, which counts only if it is a positive integer and is 64
otherwise, the width of the terminal, for which the same holds with 80, and a switch that turns
environment files off.
-/

set_option autoImplicit false

namespace Rulebook

/-- The variables of an environment with their values. -/
abbrev Environment := List (Text × Text)

namespace Environment

/-- The value of a variable. -/
def get? (env : Environment) (name : Text) : Option Text := List.lookup name env

/-- Binds a variable unless it is bound already. -/
def bindNew (env : Environment) (name value : Text) : Environment :=
  if (env.get? name).isSome then env else env ++ [(name, value)]

/-- Why a variable cannot be bound. -/
inductive BindFault where
  /-- The name or the value holds a surrogate that stands for no byte. -/
  | unencodable
  /-- The name has an equals sign, or the name or the value has a NUL. -/
  | malformed
  | emptyName
deriving DecidableEq, Repr

/-- Why a name cannot be bound to a value, if it cannot. -/
def bindFault? (name value : Text) : Option BindFault :=
  let null := CodePoint.ofNat 0
  if !(name.fitsSystem && value.fitsSystem) then some .unencodable
  else if name.contains null || value.contains null || name.contains '=' then some .malformed
  else if name.isEmpty then some .emptyName
  else none

/-- Whether a variable can be bound at all. -/
def admits (name value : Text) : Bool := (bindFault? name value).isNone

end Environment

namespace Settings

/-- The depth that holds where none is set. -/
def defaultDepth : Int := 64

/-- The name of the variable for the depth. -/
def depthVariable : Text := "BRIJ_MAX_RULE_DEPTH"

/-- The depth that a text sets. -/
def depthOfText (raw : Text) : Int :=
  match raw.settingInteger? with
  | some n => if 0 < n then n else defaultDepth
  | none => defaultDepth

/-- A depth that a text sets is positive. -/
theorem depthOfText_pos (raw : Text) : 0 < depthOfText raw := by
  unfold depthOfText
  split
  · split
    · assumption
    · decide
  · decide

/-- The depth that an environment sets. -/
def ruleDepth (env : Environment) : Int :=
  match env.get? depthVariable with
  | some raw => depthOfText raw
  | none => defaultDepth

/-- The name of the variable for the address of the database. -/
def urlVariable : Text := "BRIJ_DATABASE_URL"

/-- The address of the database that an environment sets. -/
def databaseUrl (env : Environment) : Text :=
  (env.get? urlVariable).getD "sqlite:///./brij.db"

/-- The name of the variable that switches environment files off. -/
def switchVariable : Text := "PYTHON_DOTENV_DISABLED"

/-- The lower-case letter of a code point as far as it is one of ASCII: of `A` to `Z`, and of the
long s. -/
def foldCase (c : CodePoint) : CodePoint :=
  if c.val = 0x17F then 's' else c.toLowerAscii

/-- The words that switch something on. -/
def switchWords : List Text := ["1", "true", "t", "yes", "y"]

/-- Whether an environment switches environment files off. -/
def ignoresEnvFiles (env : Environment) : Bool :=
  match env.get? switchVariable with
  | some raw => switchWords.contains (raw.map foldCase)
  | none => false

/-- The name of the variable for the width of the terminal. -/
def widthVariable : Text := "COLUMNS"

/-- The width of the terminal where none is set. -/
def defaultWidth : Int := 80

/-- The width of the terminal that an environment sets. -/
def terminalWidth (env : Environment) : Int :=
  match (env.get? widthVariable).bind Text.settingInteger? with
  | some n => if 0 < n then n else defaultWidth
  | none => defaultWidth

/-- The variables that settings are read from. -/
def variableNames : List Text := [depthVariable, urlVariable, switchVariable, widthVariable]

end Settings

end Rulebook
