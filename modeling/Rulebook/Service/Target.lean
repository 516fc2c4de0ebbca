import Rulebook.Service.Address

/-!
# Request targets

The path and the query that a request is sent to, decoded. A percent sign with two hexadecimal
digits stands for a byte, and bytes are read as UTF-8 with a replacement where they are none. A path
is decoded twice, by the sender and by the receiver, and a query once. In a query a plus sign stands
for a blank, and of several values of a name the last counts.
-/

set_option autoImplicit false

namespace Rulebook

/-- Where a request goes, decoded. -/
structure Target where
  path : Text
  query : List (Text × Text)
deriving DecidableEq

namespace Target

/-- The bytes that a text stands for where percent signs escape bytes. -/
def percentBytes : Text → List UInt8
  | [] => []
  | [c] => Utf8.encode [c]
  | [c, d] => Utf8.encode [c, d]
  | c :: d :: e :: rest =>
    if c = '%' then
      match d.hexValue?, e.hexValue? with
      | some high, some low => (high * 16 + low).toUInt8 :: percentBytes rest
      | _, _ => Utf8.encode [c] ++ percentBytes (d :: e :: rest)
    else Utf8.encode [c] ++ percentBytes (d :: e :: rest)

/-- The text that a text with percent escapes stands for. -/
def percentDecode (t : Text) : Text := Utf8.decodeLossy (percentBytes t)

/-- A path with its escapes decoded; an empty one is the root. -/
def decodePath (t : Text) : Text := percentDecode (percentDecode (if t = [] then "/" else t))

/-- A name or a value of a query, decoded. -/
def decodeQueryPart (t : Text) : Text :=
  percentDecode (t.map fun c => if c = ('+' : CodePoint) then (' ' : CodePoint) else c)

/-- The names and values of a query; a name without an equals sign has the empty value. -/
def decodeQuery (t : Text) : List (Text × Text) :=
  ((t.splitOn '&').filter (· ≠ [])).map fun part =>
    let (name, value) := Text.cutAt '=' part
    (decodeQueryPart name, decodeQueryPart (value.getD []))

/-- The target that an address leads to. -/
def ofAddress (a : Address) : Target :=
  { path := decodePath a.path, query := decodeQuery (a.query.getD []) }

/-- The value of a name in the query. -/
def value? (target : Target) (name : Text) : Option Text := target.query.reverse.lookup name

end Target

end Rulebook
