import Rulebook.Kind

/-!
# Schemas

The part of JSON Schema, draft 7, that the grammar of rule set documents is exported in. A schema is
a list of keywords, and a value conforms if it conforms to each of them. A keyword on objects or on
arrays passes over every other kind of value. References go to a fixed set of definitions. This
file holds the type and the JSON form of a schema, whose keys come in the order of the keywords.
-/

set_option autoImplicit false

namespace Rulebook

/-- What a schema may refer to. -/
inductive Definition where
  | rule
  | condition
  | action
deriving DecidableEq, Repr

/-- The name of a definition. -/
def Definition.name : Definition → Text
  | .rule => "rule"
  | .condition => "condition"
  | .action => "action"

/-- A keyword of a schema; a schema is a list of them. -/
inductive Keyword where
  /-- The value has one of the kinds. -/
  | type (kinds : List Kind)
  /-- The value is one of the texts. -/
  | enum (texts : List Text)
  /-- The value is the text. -/
  | const (text : Text)
  /-- The object has all the keys. -/
  | required (names : List Text)
  /-- The values of these keys conform where they are present; if closed, there are no other
  keys. -/
  | properties (schemas : List (Text × List Keyword)) (closed : Bool)
  /-- Every item of the array conforms. -/
  | items (schema : List Keyword)
  /-- The value conforms to one of the schemas. -/
  | anyOf (schemas : List (List Keyword))
  /-- The value conforms to all of the schemas. -/
  | allOf (schemas : List (List Keyword))
  /-- The value does not conform. -/
  | not (schema : List Keyword)
  /-- A value that conforms to the first schema conforms to the second. -/
  | ifThen (condition consequence : List Keyword)
  /-- The value conforms to a definition. -/
  | ref (target : Definition)

/-- A schema: its keywords in order. -/
abbrev Schema := List Keyword

namespace Schema

/-- Texts as a JSON array. -/
def textArray (texts : List Text) : Json := .arr (texts.map .str)

/-- The JSON form of the kinds of a value: a name, or a list of names if there are several. -/
def kindsToJson : List Kind → Json
  | [kind] => .str kind.name
  | kinds => textArray (kinds.map Kind.name)

/-- The JSON form of a reference. -/
def pointer (d : Definition) : Text := "#/definitions/" ++ d.name

mutual

/-- The members that a keyword contributes to the JSON form of its schema. -/
def keywordMembers : Keyword → List (Text × Json)
  | .type kinds => [("type", kindsToJson kinds)]
  | .enum texts => [("enum", textArray texts)]
  | .const text => [("const", .str text)]
  | .required names => [("required", textArray names)]
  | .properties schemas closed =>
    ("properties", .obj (propertyMembers schemas)) ::
      (if closed then [("additionalProperties", .bool false)] else [])
  | .items schema => [("items", .obj (members schema))]
  | .anyOf schemas => [("anyOf", .arr (objects schemas))]
  | .allOf schemas => [("allOf", .arr (objects schemas))]
  | .not schema => [("not", .obj (members schema))]
  | .ifThen condition consequence =>
    [("if", .obj (members condition)), ("then", .obj (members consequence))]
  | .ref target => [("$ref", .str (pointer target))]

/-- The members of the JSON form of a schema. -/
def members : List Keyword → List (Text × Json)
  | [] => []
  | keyword :: rest => keywordMembers keyword ++ members rest

/-- The JSON forms of several schemas. -/
def objects : List (List Keyword) → List Json
  | [] => []
  | schema :: rest => .obj (members schema) :: objects rest

/-- The JSON forms of named schemas. -/
def propertyMembers : List (Text × List Keyword) → List (Text × Json)
  | [] => []
  | (name, schema) :: rest => (name, .obj (members schema)) :: propertyMembers rest

end

/-- The JSON form of a schema. -/
def toJson (schema : Schema) : Json := .obj (members schema)

end Schema

end Rulebook
