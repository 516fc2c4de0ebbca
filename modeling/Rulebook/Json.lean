import Rulebook.Text
import Rulebook.Number.Binary64

/-!
# JSON values

The values that documents, requests and answers are made of. Integers of any size and binary64
numbers are told apart, and an object keeps its members in order. This file holds the type, its
decidable equality, the look-up and the writing of members, the number of values in a tree and
its nesting.
-/

set_option autoImplicit false

namespace Rulebook

/-- A JSON value. A numeral with a point or an exponent is a `float`, any other an `int`. -/
inductive Json where
  | null
  | bool (value : Bool)
  | int (value : Int)
  | float (value : Binary64)
  | str (text : Text)
  | arr (items : List Json)
  | obj (members : List (Text × Json))

/-- The members of an object, in order. -/
abbrev Members := List (Text × Json)

namespace Members

/-- The value of the first member with a key. -/
def get? (members : Members) (key : Text) : Option Json := List.lookup key members

/-- Whether a member with a key is present. -/
def has (members : Members) (key : Text) : Bool := (members.get? key).isSome

/-- The keys of the members, in order. -/
def keys (members : Members) : List Text := members.map Prod.fst

/-- Sets the value of a key: in place if the key is present, at the end otherwise. -/
def put (key : Text) (value : Json) : Members → Members
  | [] => [(key, value)]
  | (k, v) :: rest => if k = key then (k, value) :: rest else (k, v) :: put key value rest

/-- The members that a sequence of pairs leaves: a repeated key keeps the place of its first pair
and the value of its last. -/
def ofPairs (pairs : List (Text × Json)) : Members :=
  pairs.foldl (fun members (key, value) => put key value members) []

end Members

namespace Json

mutual

/-- Equality of values is decidable. -/
def decEq : (a b : Json) → Decidable (a = b)
  | .null, b =>
    match b with
    | .null => isTrue rfl
    | .bool _ | .int _ | .float _ | .str _ | .arr _ | .obj _ => isFalse nofun
  | .bool x, b =>
    match b with
    | .bool y => decidable_of_iff (x = y) (by simp)
    | .null | .int _ | .float _ | .str _ | .arr _ | .obj _ => isFalse nofun
  | .int x, b =>
    match b with
    | .int y => decidable_of_iff (x = y) (by simp)
    | .null | .bool _ | .float _ | .str _ | .arr _ | .obj _ => isFalse nofun
  | .float x, b =>
    match b with
    | .float y => decidable_of_iff (x = y) (by simp)
    | .null | .bool _ | .int _ | .str _ | .arr _ | .obj _ => isFalse nofun
  | .str x, b =>
    match b with
    | .str y => decidable_of_iff (x = y) (by simp)
    | .null | .bool _ | .int _ | .float _ | .arr _ | .obj _ => isFalse nofun
  | .arr xs, b =>
    match b with
    | .arr ys =>
      have := decEqItems xs ys
      decidable_of_iff (xs = ys) (by simp)
    | .null | .bool _ | .int _ | .float _ | .str _ | .obj _ => isFalse nofun
  | .obj xs, b =>
    match b with
    | .obj ys =>
      have := decEqMembers xs ys
      decidable_of_iff (xs = ys) (by simp)
    | .null | .bool _ | .int _ | .float _ | .str _ | .arr _ => isFalse nofun

/-- Equality of lists of values is decidable. -/
def decEqItems : (xs ys : List Json) → Decidable (xs = ys)
  | [], [] => isTrue rfl
  | [], _ :: _ => isFalse nofun
  | _ :: _, [] => isFalse nofun
  | x :: xs, y :: ys =>
    have := decEq x y
    have := decEqItems xs ys
    decidable_of_iff (x = y ∧ xs = ys) (by simp)

/-- Equality of members is decidable. -/
def decEqMembers : (xs ys : List (Text × Json)) → Decidable (xs = ys)
  | [], [] => isTrue rfl
  | [], _ :: _ => isFalse nofun
  | _ :: _, [] => isFalse nofun
  | (k, x) :: xs, (l, y) :: ys =>
    have := decEq x y
    have := decEqMembers xs ys
    decidable_of_iff (k = l ∧ x = y ∧ xs = ys) (by simp [and_assoc])

end

/-- Values are compared part by part. -/
instance : DecidableEq Json := decEq

mutual

/-- The number of values in a tree, the tree itself included. -/
def size : Json → Nat
  | .arr items => 1 + sizeItems items
  | .obj members => 1 + sizeMembers members
  | _ => 1

/-- The number of values in a list of trees. -/
def sizeItems : List Json → Nat
  | [] => 0
  | item :: rest => item.size + sizeItems rest

/-- The number of values in the members of an object. -/
def sizeMembers : List (Text × Json) → Nat
  | [] => 0
  | (_, value) :: rest => value.size + sizeMembers rest

end

mutual

/-- How many arrays and objects are open at the innermost place of a tree. -/
def nesting : Json → Nat
  | .arr items => 1 + nestingItems items
  | .obj members => 1 + nestingMembers members
  | _ => 0

/-- The deepest nesting in a list of trees. -/
def nestingItems : List Json → Nat
  | [] => 0
  | item :: rest => max item.nesting (nestingItems rest)

/-- The deepest nesting in the members of an object. -/
def nestingMembers : List (Text × Json) → Nat
  | [] => 0
  | (_, value) :: rest => max value.nesting (nestingMembers rest)

end

mutual

/-- Whether a condition holds of every number, text and key of a tree. -/
def allLeaves (number : Binary64 → Bool) (text : Text → Bool) : Json → Bool
  | .float x => number x
  | .str t => text t
  | .arr items => allLeavesItems number text items
  | .obj members => allLeavesMembers number text members
  | _ => true

/-- Whether a condition holds of every number, text and key of a list of trees. -/
def allLeavesItems (number : Binary64 → Bool) (text : Text → Bool) : List Json → Bool
  | [] => true
  | item :: rest => allLeaves number text item && allLeavesItems number text rest

/-- Whether a condition holds of every number, text and key of the members of an object. -/
def allLeavesMembers (number : Binary64 → Bool) (text : Text → Bool) :
    List (Text × Json) → Bool
  | [] => true
  | (key, value) :: rest =>
    text key && allLeaves number text value && allLeavesMembers number text rest

end

mutual

/-- How many values lie on the longest way into a tree, the tree itself included. -/
def height : Json → Nat
  | .arr items => 1 + heightItems items
  | .obj members => 1 + heightMembers members
  | _ => 1

/-- The greatest height in a list of trees. -/
def heightItems : List Json → Nat
  | [] => 0
  | item :: rest => max item.height (heightItems rest)

/-- The greatest height in the members of an object. -/
def heightMembers : List (Text × Json) → Nat
  | [] => 0
  | (_, value) :: rest => max value.height (heightMembers rest)

end

mutual

/-- A tree with null in the place of every number that is not finite. -/
def finitePart : Json → Json
  | .float x => if x.isFinite then .float x else .null
  | .arr items => .arr (finitePartItems items)
  | .obj members => .obj (finitePartMembers members)
  | v => v

/-- Trees with null in the place of every number that is not finite. -/
def finitePartItems : List Json → List Json
  | [] => []
  | item :: rest => item.finitePart :: finitePartItems rest

/-- The members of an object with null in the place of every number that is not finite. -/
def finitePartMembers : List (Text × Json) → List (Text × Json)
  | [] => []
  | (key, value) :: rest => (key, value.finitePart) :: finitePartMembers rest

end

/-- Whether every number in a tree is finite. -/
def isFinite (v : Json) : Bool := v.allLeaves Binary64.isFinite fun _ => true

/-- Whether a tree can be sent as strict JSON in an encoding of characters: every number is finite
and no text holds a surrogate. -/
def isTransmissible (v : Json) : Bool := v.allLeaves Binary64.isFinite Text.isEncodable

end Json

end Rulebook
