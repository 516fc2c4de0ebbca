import Rulebook.Text

/-!
# UTF-8

Reading and writing text as bytes. Reading goes byte by byte: between code points a byte is a code
point by itself, leads several bytes or starts nothing; after a leading byte the next byte must lie
in a range that depends on it, and every later one in 80 to BF. So reading stops at the first byte
that no text has at its place, and the fault names the bytes of the code point that was begun.
Instead of stopping, a reader may put U+FFFD in the place of those bytes and go on.
-/

set_option autoImplicit false

namespace Rulebook.Utf8

/-- Why bytes are no text. -/
inductive Reason where
  | invalidStart
  | invalidContinuation
  | truncated
deriving DecidableEq, Repr

/-- The wording of a reason. -/
def Reason.message : Reason → Text
  | .invalidStart => "invalid start byte"
  | .invalidContinuation => "invalid continuation byte"
  | .truncated => "unexpected end of data"

/-- A fault: the positions of the first and the last byte concerned, and the first byte itself. -/
structure Fault where
  reason : Reason
  first : Nat
  last : Nat
  lead : UInt8
deriving DecidableEq, Repr

/-- The wording of a fault. -/
def Fault.message (f : Fault) : Text :=
  let bytes : Text :=
    if f.first = f.last then
      "byte 0x" ++ Text.ofHex 2 f.lead.toNat ++ " in position " ++ Text.ofNat f.first
    else "bytes in position " ++ Text.ofNat f.first ++ "-" ++ Text.ofNat f.last
  "'utf-8' codec can't decode " ++ bytes ++ ": " ++ f.reason.message

/-- A code point that has been begun. -/
structure Begun where
  /-- The position of its first byte. -/
  start : Nat
  /-- Its first byte. -/
  lead : UInt8
  /-- The number of bytes that are still to come. -/
  owed : Nat
  /-- The least value of the next byte. -/
  low : Nat
  /-- The greatest value of the next byte. -/
  high : Nat
  /-- The number that its bytes so far denote. -/
  value : Nat

/-- What a byte between code points is. -/
inductive Opening where
  | whole (c : CodePoint)
  | lead (b : Begun)
  | nothing

/-- What a byte at a position between code points is. -/
def opening (position : Nat) (byte : UInt8) : Opening :=
  let n := byte.toNat
  let begun (owed low high value : Nat) : Opening :=
    .lead { start := position, lead := byte, owed, low, high, value }
  if n < 0x80 then .whole (CodePoint.ofNat n)
  else if n < 0xC2 then .nothing
  else if n < 0xE0 then begun 1 0x80 0xBF (n - 0xC0)
  else if n = 0xE0 then begun 2 0xA0 0xBF (n - 0xE0)
  else if n = 0xED then begun 2 0x80 0x9F (n - 0xE0)
  else if n < 0xF0 then begun 2 0x80 0xBF (n - 0xE0)
  else if n = 0xF0 then begun 3 0x90 0xBF (n - 0xF0)
  else if n < 0xF4 then begun 3 0x80 0xBF (n - 0xF0)
  else if n = 0xF4 then begun 3 0x80 0x8F (n - 0xF0)
  else .nothing

/-- Whether a byte may follow in a code point that has been begun. -/
def Begun.continues (b : Begun) (byte : UInt8) : Bool :=
  b.low ≤ byte.toNat && byte.toNat ≤ b.high

/-- The code point after one more byte. -/
def Begun.next (b : Begun) (byte : UInt8) : Opening :=
  let value := b.value * 0x40 + (byte.toNat - 0x80)
  if b.owed ≤ 1 then .whole (CodePoint.ofNat value)
  else .lead { b with owed := b.owed - 1, low := 0x80, high := 0xBF, value }

/-- Reads bytes from a position on. `found` holds the code points before, the latest first. -/
def decodeFrom (position : Nat) (begun : Option Begun) (found : Text) :
    List UInt8 → Except Fault Text
  | [] =>
    match begun with
    | none => .ok found.reverse
    | some b =>
      .error { reason := .truncated, first := b.start, last := position - 1, lead := b.lead }
  | byte :: rest =>
    match begun with
    | none =>
      match opening position byte with
      | .whole c => decodeFrom (position + 1) none (c :: found) rest
      | .lead b => decodeFrom (position + 1) (some b) found rest
      | .nothing =>
        .error { reason := .invalidStart, first := position, last := position, lead := byte }
    | some b =>
      if b.continues byte then
        match b.next byte with
        | .whole c => decodeFrom (position + 1) none (c :: found) rest
        | .lead b => decodeFrom (position + 1) (some b) found rest
        | .nothing => decodeFrom (position + 1) none found rest
      else
        .error
          { reason := .invalidContinuation, first := b.start, last := position - 1, lead := b.lead }

/-- The text that bytes hold. -/
def decode (bytes : List UInt8) : Except Fault Text := decodeFrom 0 none [] bytes

/-- U+FFFD, which stands for bytes that are no text. -/
def replacement : CodePoint := CodePoint.ofNat 0xFFFD

/-- The text that bytes hold, with a replacement for the bytes of each fault. -/
def decodeLossyFrom (begun : Option Begun) : List UInt8 → Text
  | [] => if begun.isSome then [replacement] else []
  | byte :: rest =>
    let fresh : Text :=
      match opening 0 byte with
      | .whole c => c :: decodeLossyFrom none rest
      | .lead b => decodeLossyFrom (some b) rest
      | .nothing => replacement :: decodeLossyFrom none rest
    match begun with
    | none => fresh
    | some b =>
      if b.continues byte then
        match b.next byte with
        | .whole c => c :: decodeLossyFrom none rest
        | .lead b => decodeLossyFrom (some b) rest
        | .nothing => decodeLossyFrom none rest
      else replacement :: fresh

/-- The text that bytes hold, with a replacement for the bytes of each fault. -/
def decodeLossy (bytes : List UInt8) : Text := decodeLossyFrom none bytes

/-- The bytes of a code point. -/
def encodeCodePoint (c : CodePoint) : List UInt8 :=
  let n := c.val
  let trail (unit : Nat) : UInt8 := (0x80 + n / unit % 0x40).toUInt8
  if n < 0x80 then [n.toUInt8]
  else if n < 0x800 then [(0xC0 + n / 0x40).toUInt8, trail 1]
  else if n < 0x10000 then [(0xE0 + n / 0x1000).toUInt8, trail 0x40, trail 1]
  else [(0xF0 + n / 0x40000).toUInt8, trail 0x1000, trail 0x40, trail 1]

/-- The bytes of a text. -/
def encode (t : Text) : List UInt8 := t.flatMap encodeCodePoint

end Rulebook.Utf8
