import Rulebook.Text.Utf8

/-!
# Encodings

The ways to write a text as bytes: in UTF-8, or in units of two or four bytes whose first byte is
the highest or the lowest one. A text of JSON begins with ASCII, so the zeros among its first bytes
tell the way. In units of two bytes a pair of surrogates stands for one code point; a surrogate
without a partner stands for itself.
-/

set_option autoImplicit false

namespace Rulebook

/-- Which byte of a unit comes first. -/
inductive ByteOrder where
  | highFirst
  | lowFirst
deriving DecidableEq, Repr

/-- A way to write a text as bytes. -/
inductive Encoding where
  | utf8
  | utf16 (order : ByteOrder)
  | utf32 (order : ByteOrder)
deriving DecidableEq, Repr

namespace Encoding

/-- The encoding of a text that begins with ASCII, by the zeros among its first bytes. Three bytes
or fewer than two are taken for UTF-8. -/
def detect : List UInt8 → Encoding
  | [a, b] => if a = 0 then .utf16 .highFirst else if b = 0 then .utf16 .lowFirst else .utf8
  | a :: b :: c :: d :: _ =>
    if a = 0 then if b = 0 then .utf32 .highFirst else .utf16 .highFirst
    else if b = 0 then if c = 0 ∧ d = 0 then .utf32 .lowFirst else .utf16 .lowFirst
    else .utf8
  | _ => .utf8

/-- The number that the bytes of a unit denote. -/
def unit (order : ByteOrder) (bytes : List UInt8) : Nat :=
  match order with
  | .highFirst => bytes.foldl (fun n b => n * 0x100 + b.toNat) 0
  | .lowFirst => bytes.foldr (fun b n => n * 0x100 + b.toNat) 0

/-- The units of two bytes; there are none if a byte is left over. -/
def pairs? (order : ByteOrder) : List UInt8 → Option (List Nat)
  | [] => some []
  | [_] => none
  | a :: b :: rest => (pairs? order rest).map (unit order [a, b] :: ·)

/-- The units of four bytes; there are none if bytes are left over. -/
def quads? (order : ByteOrder) : List UInt8 → Option (List Nat)
  | [] => some []
  | a :: b :: c :: d :: rest => (quads? order rest).map (unit order [a, b, c, d] :: ·)
  | _ => none

/-- A text with every high surrogate and the low one behind it joined. -/
def joinPairs : Text → Text
  | [] => []
  | [c] => [c]
  | c :: d :: rest =>
    if c.isHighSurrogate ∧ d.isLowSurrogate then CodePoint.joinSurrogates c d :: joinPairs rest
    else c :: joinPairs (d :: rest)

/-- The number after the last code point. -/
def codePointBound : Nat := 0x110000

/-- The text that bytes hold in an encoding, if they hold one. -/
def decode? (bytes : List UInt8) : Encoding → Option Text
  | .utf8 =>
    match Utf8.decode bytes with
    | .ok t => some t.dropMark
    | .error _ => none
  | .utf16 order => (pairs? order bytes).map fun units => joinPairs (units.map CodePoint.ofNat)
  | .utf32 order =>
    match quads? order bytes with
    | none => none
    | some units =>
      if units.all (· < codePointBound) then some (units.map CodePoint.ofNat) else none

end Encoding

end Rulebook
