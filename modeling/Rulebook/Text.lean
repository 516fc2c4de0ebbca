/-!
# Text

A text is a list of Unicode code points. Unlike `String`, it may hold a surrogate code point that
has no partner, because a JSON escape such as `\ud800` names one. This file holds the type, the
way from and to `String`, and the pieces that messages are built from: decimal numerals,
hexadecimal numerals of fixed width, joining with a separator, and the place of an offset.
-/

set_option autoImplicit false

namespace Rulebook

/-- A Unicode code point, surrogates included. -/
abbrev CodePoint := Fin 0x110000

namespace CodePoint

/-- The code point of a character. -/
def ofChar (c : Char) : CodePoint :=
  ⟨c.val.toNat, by
    rcases c.valid with h | h
    · exact Nat.lt_trans h (by decide)
    · exact h.2⟩

/-- A character stands for its code point. -/
instance : CoeTail Char CodePoint := ⟨ofChar⟩

/-- The code point with a number; numbers beyond the last one count on from the first. -/
def ofNat (n : Nat) : CodePoint := Fin.ofNat 0x110000 n

/-- The character of a code point; a surrogate, which is no character, becomes U+FFFD. -/
def toChar (c : CodePoint) : Char :=
  if h : c.val.isValidChar then Char.ofNatAux c.val h else '\uFFFD'

/-- The first half of a surrogate pair. -/
def isHighSurrogate (c : CodePoint) : Bool := 0xD800 ≤ c.val && c.val < 0xDC00

/-- The second half of a surrogate pair. -/
def isLowSurrogate (c : CodePoint) : Bool := 0xDC00 ≤ c.val && c.val < 0xE000

/-- Either half of a surrogate pair. -/
def isSurrogate (c : CodePoint) : Bool := 0xD800 ≤ c.val && c.val < 0xE000

/-- The code point above U+FFFF that a surrogate pair stands for. -/
def joinSurrogates (high low : CodePoint) : CodePoint :=
  ofNat (0x10000 + (high.val - 0xD800) * 0x400 + (low.val - 0xDC00))

/-- One of the ten digits `0` to `9`. -/
def isDigit (c : CodePoint) : Bool := 0x30 ≤ c.val && c.val ≤ 0x39

/-- The number that a digit `0` to `9` stands for. -/
def digitValue (c : CodePoint) : Nat := c.val - 0x30

/-- The digit of a number below sixteen, letters in lower case. -/
def hexDigit (n : Nat) : CodePoint :=
  if n < 10 then ofNat (0x30 + n) else ofNat (0x57 + n)

/-- The number that a hexadecimal digit of either case stands for. -/
def hexValue? (c : CodePoint) : Option Nat :=
  if c.isDigit then some (c.val - 0x30)
  else if 0x61 ≤ c.val ∧ c.val ≤ 0x66 then some (c.val - 0x57)
  else if 0x41 ≤ c.val ∧ c.val ≤ 0x46 then some (c.val - 0x37)
  else none

/-- The lower-case letter of an upper-case letter `A` to `Z`; every other code point itself. -/
def toLowerAscii (c : CodePoint) : CodePoint :=
  if 0x41 ≤ c.val ∧ c.val ≤ 0x5A then ofNat (c.val + 0x20) else c

/-- The upper-case letter of a lower-case letter `a` to `z`; every other code point itself. -/
def toUpperAscii (c : CodePoint) : CodePoint :=
  if 0x61 ≤ c.val ∧ c.val ≤ 0x7A then ofNat (c.val - 0x20) else c

end CodePoint

/-- A text: its code points in order. -/
abbrev Text := List CodePoint

namespace Text

/-- The code points of a string. -/
def ofString (s : String) : Text := s.toList.map CodePoint.ofChar

/-- A string stands for its code points. -/
instance : Coe String Text := ⟨ofString⟩

/-- The characters of a text; a surrogate without a partner becomes U+FFFD. -/
def toString (t : Text) : String := String.ofList (t.map CodePoint.toChar)

/-- The decimal numeral of a natural number. -/
def ofNat (n : Nat) : Text := (Nat.toDigits 10 n).map CodePoint.ofChar

/-- The decimal numeral of an integer. -/
def ofInt : Int → Text
  | .ofNat n => ofNat n
  | .negSucc n => "-" ++ ofNat (n + 1)

/-- The last `width` hexadecimal digits of a number. -/
def ofHex (width : Nat) (n : Nat) : Text :=
  match width with
  | 0 => []
  | w + 1 => ofHex w (n / 16) ++ [CodePoint.hexDigit (n % 16)]

/-- The natural number that digits denote. -/
def digitsValue (digits : Text) : Nat := digits.foldl (fun n c => 10 * n + c.digitValue) 0

/-- Whether a text begins with a minus sign, and what follows its sign if it has one. -/
def signed : Text → Bool × Text
  | [] => (false, [])
  | c :: rest =>
    if c = '-' then (true, rest) else if c = '+' then (false, rest) else (false, c :: rest)

/-- The texts of a list with a separator between neighbours. -/
def join (separator : Text) : List Text → Text
  | [] => []
  | [t] => t
  | t :: rest => t ++ separator ++ join separator rest

/-- Every letter `A` to `Z` in lower case. -/
def toLowerAscii (t : Text) : Text := t.map CodePoint.toLowerAscii

/-- Every letter `a` to `z` in upper case. -/
def toUpperAscii (t : Text) : Text := t.map CodePoint.toUpperAscii

/-- Whether a text can be written in an encoding of characters: it holds no surrogate. -/
def isEncodable (t : Text) : Bool := t.all fun c => !c.isSurrogate

/-- Whether the system takes a text as a name or a value. Of the surrogates it takes those from U+DC80
to U+DCFF, which stand for bytes that are no UTF-8. -/
def fitsSystem (t : Text) : Bool :=
  t.all fun c => !c.isSurrogate || (0xDC80 ≤ c.val && c.val ≤ 0xDCFF)

/-- What follows a given beginning of a text. -/
def dropPrefix? : (beginning : Text) → Text → Option Text
  | [], t => some t
  | _ :: _, [] => none
  | b :: bs, c :: cs => if b = c then dropPrefix? bs cs else none

/-- Whether a text stands somewhere in another one. -/
def occursIn (part : Text) : Text → Bool
  | [] => part.isEmpty
  | c :: rest => part.isPrefixOf (c :: rest) || occursIn part rest

/-- The text before the first occurrence of a code point, and what follows it if there is one. -/
def cutAt (c : CodePoint) : Text → Text × Option Text
  | [] => ([], none)
  | x :: rest =>
    if x = c then ([], some rest)
    else
      let (before, after) := cutAt c rest
      (x :: before, after)

/-- The pieces of a text between the occurrences of a code point. -/
def splitOn (c : CodePoint) : Text → List Text
  | [] => [[]]
  | x :: rest =>
    if x = c then [] :: splitOn c rest
    else
      match splitOn c rest with
      | [] => [[x]]
      | piece :: pieces => (x :: piece) :: pieces

/-- A carriage return with a line feed, and each one without, becomes a line feed. -/
def unifyLineEnds : Text → Text
  | [] => []
  | [c] => if c = '\r' then ['\n'] else [c]
  | c :: d :: rest =>
    if c = '\r' then
      if d = '\n' then '\n' :: unifyLineEnds rest else '\n' :: unifyLineEnds (d :: rest)
    else c :: unifyLineEnds (d :: rest)

/-- The order of texts by code point, a beginning before the longer text. -/
def ble : Text → Text → Bool
  | [], _ => true
  | _ :: _, [] => false
  | a :: as, b :: bs => if a = b then ble as bs else a < b

/-- U+FEFF, which may stand before a text to tell how its bytes are ordered. -/
def byteOrderMark : CodePoint := CodePoint.ofNat 0xFEFF

/-- A text without the byte order mark that it may begin with. -/
def dropMark : Text → Text
  | [] => []
  | c :: rest => if c = byteOrderMark then rest else c :: rest

/-- Where an offset lies: lines and columns count from one, and only a line feed ends a line. -/
structure Place where
  /-- One more than the number of line feeds before the offset. -/
  line : Nat
  /-- The distance from the last line feed before the offset. -/
  column : Nat
  /-- The number of code points before the offset. -/
  offset : Nat
deriving DecidableEq, Repr

/-- The place of an offset in a text. -/
def place (t : Text) (offset : Nat) : Place :=
  let before := t.take offset
  let lineFeed : CodePoint := '\n'
  { line := 1 + before.count lineFeed
    column := 1 + (before.reverse.takeWhile (· != lineFeed)).length
    offset := offset }

/-- The wording of a place in a message. -/
def Place.describe (p : Place) : Text :=
  "line " ++ ofNat p.line ++ " column " ++ ofNat p.column ++ " (char " ++ ofNat p.offset ++ ")"

end Text

end Rulebook
