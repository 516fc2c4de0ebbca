import Rulebook.Json

/-!
# Looking up in any value

A field is looked up in an object by its key. A list and a text can be asked for a field too: a list
has it if one of its items is like the name, and then the name has to be a place in the list; a text
has it if the name occurs in it, but nothing can be taken from there. Numbers and truth values are
alike if they denote the same number, objects whatever the order of their members.
-/

set_option autoImplicit false

namespace Rulebook

/-- Why a field cannot be looked up in a value. -/
inductive LookupFault where
  /-- The value has no fields of such a name. -/
  | wrongKind
  /-- The name is a place behind the end of the list. -/
  | outOfRange
deriving DecidableEq, Repr

namespace Json

/-- The number that a value denotes, an integer if it has no fraction. -/
def quantity? : Json → Option Json
  | .int n => some (.int n)
  | .bool b => some (.int (if b then 1 else 0))
  | .float x => some ((x.wholeValue?.map Json.int).getD (.float x))
  | _ => none

mutual

/-- Whether two values are alike. -/
def alike : Json → Json → Bool
  | .arr items, .arr others => alikeItems items others
  | .obj members, .obj others => members.length = others.length && alikeMembers members others
  | .str t, .str other => t = other
  | .null, .null => true
  | .int n, other => other.quantity? = some (.int n)
  | .bool b, other => other.quantity? = some (.int (if b then 1 else 0))
  | .float x, other => other.quantity?.isSome && other.quantity? = (Json.float x).quantity?
  | _, _ => false

/-- Whether the items of two lists are alike, place by place. -/
def alikeItems : List Json → List Json → Bool
  | [], [] => true
  | item :: rest, other :: others => alike item other && alikeItems rest others
  | _, _ => false

/-- Whether every member of an object is like the one of its key in another object. -/
def alikeMembers : List (Text × Json) → List (Text × Json) → Bool
  | [], _ => true
  | (key, value) :: rest, others =>
    (match Members.get? others key with
    | some other => alike value other
    | none => false) && alikeMembers rest others

end

/-- The item at a place of a list; a negative place counts from the end. -/
def itemAt (items : List Json) (place : Int) : Except LookupFault Json :=
  let place := if place < 0 then place + items.length else place
  if place < 0 then .error .outOfRange
  else
    match items[place.toNat]? with
    | some item => .ok item
    | none => .error .outOfRange

/-- Looks up a field in a list that has it. -/
def takeItem (items : List Json) : Json → Except LookupFault Json
  | .int place => itemAt items place
  | .bool b => itemAt items (if b then 1 else 0)
  | _ => .error .wrongKind

/-- Looks up a field in an object. A list and an object are no names. -/
def lookupMember (members : Members) : Json → Except LookupFault (Option Json)
  | .str key => .ok (members.get? key)
  | .arr _ => .error .wrongKind
  | .obj _ => .error .wrongKind
  | _ => .ok none

/-- Looks up a field in a value. -/
def lookup (name : Json) : Json → Except LookupFault (Option Json)
  | .obj members => lookupMember members name
  | .arr items => if items.any (alike name) then (takeItem items name).map some else .ok none
  | .str t =>
    match name with
    | .str part => if part.occursIn t then .error .wrongKind else .ok none
    | _ => .error .wrongKind
  | _ => .error .wrongKind

/-- The members among which fields are looked up by their keys. A value that is no object has none,
if it can be asked for them at all. -/
def fieldsFor (keys : List Text) : Json → Except LookupFault Members
  | .obj members => .ok members
  | v => (keys.mapM fun key => lookup (.str key) v).map fun _ => []

end Json

end Rulebook
