import Rulebook.Service.Request

/-!
# Drafts

A request as its sender states it, before it is sent. Sending puts the method in upper case and
takes the address apart. A request is not sent at all if its address is none, if a text of it cannot
be written, if a number of its body is not finite, or if its address leads to no service of this
sort.
-/

set_option autoImplicit false

namespace Rulebook

/-- A request as its sender states it. -/
structure Draft where
  method : Text
  address : Text
  /-- The names and values that replace the query of the address. -/
  query : Option (List (Text × Text)) := none
  body : Option RequestBody := none

/-- Why a request is not sent. -/
inductive SendFault where
  | invalidAddress
  /-- A text that is sent as it stands has code points that its encoding does not have. -/
  | unwritable
  | notFinite
  | unknownScheme
  /-- The scheme is one of a connection that stays open. -/
  | upgraded
deriving DecidableEq, Repr

namespace Draft

/-- The upper-case letters of a code point, as far as they are of ASCII; any other code point stands
for itself. -/
def upperLetters (c : CodePoint) : Text :=
  if c.val = 0xDF then "SS"
  else if c.val = 0x131 then "I"
  else if c.val = 0x17F then "S"
  else if c.val = 0xFB00 then "FF"
  else if c.val = 0xFB01 then "FI"
  else if c.val = 0xFB02 then "FL"
  else if c.val = 0xFB03 then "FFI"
  else if c.val = 0xFB04 then "FFL"
  else if c.val = 0xFB05 ∨ c.val = 0xFB06 then "ST"
  else [c.toUpperAscii]

/-- The method of a request, in upper case. -/
def methodOf (t : Text) : Text := t.flatMap upperLetters

/-- What is wrong with a body. A text is written in UTF-8 and the name of its type in ASCII. -/
def bodyFault? : Option RequestBody → Option SendFault
  | some (.json v) =>
    if !v.isFinite then some .notFinite
    else if v.isTransmissible then none
    else some .unwritable
  | some (.raw text contentType) =>
    if text.isEncodable ∧ contentType.all (·.val < 0x80) then none else some .unwritable
  | none => none

/-- Why an address leads to no service, if it leads to none: its scheme has to be one of the
service. -/
def routeFault? (a : Address) : Option SendFault :=
  if !(["http", "https", "ws", "wss"] : List Text).contains a.scheme then some .unknownScheme
  else if (["ws", "wss"] : List Text).contains a.scheme then some .upgraded
  else none

/-- The address and the query of a request, if both can be written. -/
def target? (d : Draft) : Option (Address × Target) :=
  match Address.ofText? d.address, d.query with
  | none, _ => none
  | some a, none => some (a, Target.ofAddress a)
  | some a, some query =>
    (a.withQuery? query).map fun a => (a, { Target.ofAddress a with query })

/-- Whether address and query can be encoded. -/
def isEncodable (d : Draft) : Bool :=
  d.address.isEncodable &&
    (d.query.getD []).all fun (name, value) => name.isEncodable && value.isEncodable

/-- Sends a request. -/
def send (d : Draft) : Except SendFault Request :=
  match d.target? with
  | none => .error .invalidAddress
  | some (a, target) =>
    match if d.isEncodable then bodyFault? d.body else some .unwritable with
    | some fault => .error fault
    | none =>
      match routeFault? a with
      | some fault => .error fault
      | none => .ok { method := methodOf d.method, target, body := d.body }

end Draft

end Rulebook
