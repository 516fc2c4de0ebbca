import Rulebook.Json.Literal

/-!
# Bounds on the depth of rules

How deep a rule may lie. A bound is a number, with a fraction or none, or a truth value that counts
as one or zero; a message shows it as it is given. No rule is too deep for a bound that is
undefined.
-/

set_option autoImplicit false

namespace Rulebook

/-- A bound on the depth of rules. -/
inductive DepthBound where
  | integer (n : Int)
  | float (x : Binary64)
  | truth (value : Bool)
deriving DecidableEq, Repr

namespace DepthBound

/-- An integer is a bound by itself. -/
instance : Coe Int DepthBound := ⟨integer⟩

/-- Whether a depth is beyond a bound. -/
def isExceededBy (depth : Nat) : DepthBound → Bool
  | integer n => n < depth
  | truth value => value.toNat < depth
  | float (.infinite negative) => negative
  | float x => x.floor?.any (· < (depth : Int))

/-- A bound as a value. -/
def toJson : DepthBound → Json
  | integer n => .int n
  | float x => .float x
  | truth value => .bool value

/-- A bound as a message shows it. -/
def text (b : DepthBound) : Text := b.toJson.literal

end DepthBound

end Rulebook
