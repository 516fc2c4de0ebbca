import Rulebook.Depth
import Rulebook.Kind

/-!
# Defects

What can be wrong with a rule set document whose text is JSON. A defect is a cause; its wording
takes the label of the rule set besides, which stands in front and nowhere else.
-/

set_option autoImplicit false

namespace Rulebook

/-- A departure of a rule set from the grammar. -/
inductive Defect where
  /-- A required field is absent. -/
  | missingField (field : Text)
  /-- A value has none of the kinds declared for its field. -/
  | wrongKind (field : Text) (expected : List Kind) (actual : Kind)
  /-- A leaf names no registered condition; an absent condition counts as null. -/
  | unknownCondition (condition : Json)
  /-- A field that a condition calls for is absent. -/
  | missingAdditionalField (condition field : Text)
  /-- An action has a key that is no action field. -/
  | unknownAction (key : Text)
  /-- A rule lies deeper than the bound allows. -/
  | tooDeep (bound : DepthBound)
deriving DecidableEq

namespace Defect

/-- What a defect's message says behind the label. -/
def detail : Defect → Text
  | missingField field => " missing required field: " ++ field
  | wrongKind field expected actual =>
    ": Type for field " ++ field ++ ", was expected to be " ++
      Text.join " or " (expected.map Kind.name) ++ ", not " ++ actual.name
  | unknownCondition condition =>
    " does not have valid condition specified: " ++ condition.shown
  | missingAdditionalField condition field =>
    " missing required additional field for " ++ condition ++ ": " ++ field
  | unknownAction key => " invalid action specified: " ++ key
  | tooDeep bound =>
    " rule nested too deeply: exceeds maximum depth of " ++ bound.text

/-- The message of a defect in the rule set with a given label. -/
def message (label : Text) (d : Defect) : Text := label ++ d.detail

end Defect

end Rulebook
