import Rulebook.Json

/-!
# Reading JSON

A text is read by descent: a value is a string, an object, an array, one of the words `null`, `true`
and `false`, or a numeral. Each piece of the reader takes the text that is left and gives a result
with the text behind it, or a fault that holds the text from the fault on; so a place is known from
how much text is left, and no reader counts. Opening an array or an object uses up one level of
the nesting that the reader is allowed, which is what the recursion is on.
-/

set_option autoImplicit false

namespace Rulebook.Json.Reader

/-- What is missing or wrong at a place. -/
inductive Cause where
  | byteOrderMark
  | extraData
  | value
  | propertyName
  | colon
  | comma
  | unterminated
  | control
  | escape
  | unicodeEscape
deriving DecidableEq, Repr

/-- The wording of a cause. -/
def Cause.message : Cause → Text
  | .byteOrderMark => "Unexpected UTF-8 BOM (decode using utf-8-sig)"
  | .extraData => "Extra data"
  | .value => "Expecting value"
  | .propertyName => "Expecting property name enclosed in double quotes"
  | .colon => "Expecting ':' delimiter"
  | .comma => "Expecting ',' delimiter"
  | .unterminated => "Unterminated string starting at"
  | .control => "Invalid control character at"
  | .escape => "Invalid \\escape"
  | .unicodeEscape => "Invalid \\uXXXX escape"

/-- Why reading stops: at a place, which is the text from there on, or because of a number that
JSON does not have, an integer that is too long, or nesting that is too deep. -/
inductive Fault where
  | misplaced (cause : Cause) (rest : Text)
  | constant (name : Text)
  | tooManyDigits (count : Nat)
  | tooDeep
deriving DecidableEq

/-- A piece of the reader. -/
abbrev Step (α : Type) := Text → Except Fault (α × Text)

/-- What a reader allows. -/
structure Dialect where
  /-- Whether `NaN`, `Infinity` and `-Infinity` stand for numbers. -/
  allowsConstants : Bool
  /-- How many arrays and objects may be open at once. -/
  nestingLimit : Nat

/-- Strict JSON. -/
def strict : Dialect := { allowsConstants := false, nestingLimit := 990 }

/-- JSON with names for infinity and undefined numbers. -/
def lenient : Dialect := { allowsConstants := true, nestingLimit := 990 }

/-- The most digits that an integer may have. -/
def digitLimit : Nat := 4300

/-- The white space of JSON: blank, tabulator, line feed and carriage return. -/
def isSpace (c : CodePoint) : Bool :=
  c.val == 0x20 || c.val == 0x9 || c.val == 0xA || c.val == 0xD

/-- A text behind its leading white space. -/
def skipSpace (t : Text) : Text := t.dropWhile isSpace

/-! ## Strings -/

/-- A code point of a string with the way it was written. -/
inductive Piece where
  | raw (c : CodePoint)
  | escaped (c : CodePoint)
deriving DecidableEq

/-- The code point of a piece. -/
def Piece.codePoint : Piece → CodePoint
  | .raw c => c
  | .escaped c => c

/-- The text of a string: an escaped first half of a surrogate pair directly before an escaped
second half joins with it, and every other piece stands for itself. -/
def assemble : List Piece → Text
  | .escaped high :: .escaped low :: rest =>
    if high.isHighSurrogate && low.isLowSurrogate then
      CodePoint.joinSurrogates high low :: assemble rest
    else high :: assemble (.escaped low :: rest)
  | piece :: rest => piece.codePoint :: assemble rest
  | [] => []

/-- The code point of an escape of one letter. -/
def shortEscape? (c : CodePoint) : Option CodePoint :=
  if c = '"' ∨ c = '\\' ∨ c = '/' then some c
  else if c = 'b' then some (CodePoint.ofNat 0x8)
  else if c = 'f' then some (CodePoint.ofNat 0xC)
  else if c = 'n' then some (CodePoint.ofNat 0xA)
  else if c = 'r' then some (CodePoint.ofNat 0xD)
  else if c = 't' then some (CodePoint.ofNat 0x9)
  else none

/-- The unit that four hexadecimal digits name. -/
def hexUnit? (a b c d : CodePoint) : Option CodePoint :=
  match a.hexValue?, b.hexValue?, c.hexValue?, d.hexValue? with
  | some a, some b, some c, some d =>
    some (CodePoint.ofNat (((a * 16 + b) * 16 + c) * 16 + d))
  | _, _, _, _ => none

/-- The pieces of a string up to its closing quote. `start` is the text from the opening quote on;
`found` holds the pieces before, the latest first. A `\u` escape needs its four digits and at least
one more code point behind them. -/
def pieces (start : Text) (found : List Piece) : Step (List Piece)
  | [] => .error (.misplaced .unterminated start)
  | c :: rest =>
    if c = '"' then .ok (found.reverse, rest)
    else if c = '\\' then
      match rest with
      | [] => .error (.misplaced .unterminated start)
      | e :: behind =>
        if e = 'u' then
          match behind with
          | a :: b :: d :: f :: g :: tail =>
            match hexUnit? a b d f with
            | some unit => pieces start (.escaped unit :: found) (g :: tail)
            | none => .error (.misplaced .unicodeEscape (e :: behind))
          | _ => .error (.misplaced .unicodeEscape (e :: behind))
        else
          match shortEscape? e with
          | some plain => pieces start (.raw plain :: found) behind
          | none => .error (.misplaced .escape (c :: rest))
    else if c.val < 0x20 then .error (.misplaced .control (c :: rest))
    else pieces start (.raw c :: found) rest
termination_by structural t => t

/-- Reads a string whose opening quote begins the text `start`, from behind that quote. -/
def string (start : Text) : Step Text := fun rest =>
  match pieces start [] rest with
  | .error fault => .error fault
  | .ok (found, behind) => .ok (assemble found, behind)

/-! ## Numerals and words -/

/-- The parts of a numeral. -/
structure Numeral where
  /-- Whether a minus sign leads. -/
  negative : Bool
  /-- The digits before the point. -/
  whole : Text
  /-- The digits behind the point, none if there is no point. -/
  fraction : Text
  /-- The exponent, if there is one. -/
  exponent : Option Int

/-- The fraction that a text begins with, if a point and a digit lead. -/
def fraction : Text → Text × Text
  | point :: digit :: rest =>
    if point = '.' ∧ digit.isDigit then
      ((digit :: rest).takeWhile CodePoint.isDigit, (digit :: rest).dropWhile CodePoint.isDigit)
    else ([], point :: digit :: rest)
  | rest => ([], rest)

/-- The exponent that a text begins with, if it is a letter `e` of either case, a sign or none, and
at least one digit. -/
def exponent : Text → Option Int × Text
  | e :: rest =>
    if e = 'e' ∨ e = 'E' then
      let (negative, digits) := Text.signed rest
      match digits.takeWhile CodePoint.isDigit with
      | [] => (none, e :: rest)
      | d :: ds =>
        let n : Int := Text.digitsValue (d :: ds)
        (some (if negative then -n else n), digits.dropWhile CodePoint.isDigit)
    else (none, e :: rest)
  | [] => (none, [])

/-- The digits before the point that a text begins with: a single zero, or digits of which the first
is not zero. -/
def whole? : Text → Option (Text × Text)
  | c :: rest =>
    if c = '0' then some ([c], rest)
    else if c.isDigit then
      some ((c :: rest).takeWhile CodePoint.isDigit, (c :: rest).dropWhile CodePoint.isDigit)
    else none
  | [] => none

/-- The longest numeral that a text begins with. -/
def numeral? (t : Text) : Option (Numeral × Text) :=
  let (negative, unsigned) : Bool × Text :=
    match Text.dropPrefix? "-" t with
    | some rest => (true, rest)
    | none => (false, t)
  match whole? unsigned with
  | none => none
  | some (whole, rest) =>
    let (fraction, rest) := fraction rest
    let (exponent, rest) := exponent rest
    some ({ negative, whole, fraction, exponent }, rest)

/-- The value of a numeral: an integer if it has neither fraction nor exponent. -/
def Numeral.value (n : Numeral) : Except Fault Json :=
  if n.fraction = [] ∧ n.exponent = none then
    if digitLimit < n.whole.length then .error (.tooManyDigits n.whole.length)
    else
      let magnitude : Int := Text.digitsValue n.whole
      .ok (.int (if n.negative then -magnitude else magnitude))
  else
    let scale := n.exponent.getD 0 - n.fraction.length
    .ok (.float (Binary64.ofDecimal n.negative (Text.digitsValue (n.whole ++ n.fraction)) scale))

/-- The words that stand for values. -/
def words : List (Text × Json) :=
  [("null", .null), ("true", .bool true), ("false", .bool false)]

/-- The names of numbers that strict JSON does not have. -/
def constants : List (Text × Binary64) :=
  [("NaN", .notANumber), ("Infinity", .infinite false), ("-Infinity", .infinite true)]

/-- The entry of a table whose word begins a text, with the text behind the word. -/
def word? {α : Type} (table : List (Text × α)) (t : Text) : Option ((Text × α) × Text) :=
  table.findSome? fun entry => (Text.dropPrefix? entry.1 t).map fun rest => (entry, rest)

/-- Reads a word or a numeral. -/
def scalar (dialect : Dialect) : Step Json := fun t =>
  match word? words t with
  | some ((_, value), rest) => .ok (value, rest)
  | none =>
    match word? constants t with
    | some ((name, x), rest) =>
      if dialect.allowsConstants then .ok (.float x, rest) else .error (.constant name)
    | none =>
      match numeral? t with
      | some (numeral, rest) => numeral.value.map fun value => (value, rest)
      | none => .error (.misplaced .value t)

/-! ## Arrays, objects and documents -/

/-- Reads array items up to the closing bracket, the first item being next. `found` holds the items
before, the latest first; `clock` is at least as long as the text and bounds their number. -/
def items (item : Step Json) : (clock : Text) → (found : List Json) → Step (List Json)
  | [], _, t => .error (.misplaced .value t)
  | _ :: clock, found, t =>
    match item t with
    | .error fault => .error fault
    | .ok (value, rest) =>
      match skipSpace rest with
      | [] => .error (.misplaced .comma [])
      | c :: behind =>
        if c = ']' then .ok ((value :: found).reverse, behind)
        else if c = ',' then items item clock (value :: found) (skipSpace behind)
        else .error (.misplaced .comma (c :: behind))

/-- Reads an array from behind its opening bracket. -/
def array (item : Step Json) : Step Json := fun t =>
  match skipSpace t with
  | [] => .error (.misplaced .value [])
  | c :: rest =>
    if c = ']' then .ok (.arr [], rest)
    else (items item (c :: rest) [] (c :: rest)).map fun (found, behind) =>
      (.arr found, behind)

/-- Reads a key, the colon and a value. -/
def member (item : Step Json) : Step (Text × Json)
  | [] => .error (.misplaced .propertyName [])
  | c :: rest =>
    if c = '"' then
      match string (c :: rest) rest with
      | .error fault => .error fault
      | .ok (key, rest) =>
        match skipSpace rest with
        | [] => .error (.misplaced .colon [])
        | c :: behind =>
          if c = ':' then
            (item (skipSpace behind)).map fun (value, rest) => ((key, value), rest)
          else .error (.misplaced .colon (c :: behind))
    else .error (.misplaced .propertyName (c :: rest))

/-- Reads members up to the closing brace, the first key being next. `found` holds the members
before, the latest first; `clock` is at least as long as the text and bounds their number. -/
def members (item : Step Json) : (clock : Text) → (found : List (Text × Json)) →
    Step (List (Text × Json))
  | [], _, t => .error (.misplaced .propertyName t)
  | _ :: clock, found, t =>
    match member item t with
    | .error fault => .error fault
    | .ok (pair, rest) =>
      match skipSpace rest with
      | [] => .error (.misplaced .comma [])
      | c :: behind =>
        if c = '}' then .ok ((pair :: found).reverse, behind)
        else if c = ',' then members item clock (pair :: found) (skipSpace behind)
        else .error (.misplaced .comma (c :: behind))

/-- Reads an object from behind its opening brace. A repeated key keeps its first place and its
last value. -/
def object (item : Step Json) : Step Json := fun t =>
  match skipSpace t with
  | [] => .error (.misplaced .propertyName [])
  | c :: rest =>
    if c = '}' then .ok (.obj [], rest)
    else (members item (c :: rest) [] (c :: rest)).map fun (found, behind) =>
      (.obj (Members.ofPairs found), behind)

/-- Reads a value; `nested` reads the values inside arrays and objects and is absent where no more
of them may be opened. -/
def valueWith (dialect : Dialect) (nested : Option (Step Json)) : Step Json
  | [] => .error (.misplaced .value [])
  | c :: rest =>
    if c = '"' then
      (string (c :: rest) rest).map fun (text, behind) => (.str text, behind)
    else if c = '[' then
      match nested with
      | some item => array item rest
      | none => .error .tooDeep
    else if c = '{' then
      match nested with
      | some item => object item rest
      | none => .error .tooDeep
    else scalar dialect (c :: rest)

/-- Reads a value in which at most so many arrays and objects are open at once. -/
def value (dialect : Dialect) : (levels : Nat) → Step Json
  | 0 => valueWith dialect none
  | levels + 1 => valueWith dialect (some (value dialect levels))

/-- Reads a text that holds one value and white space. -/
def document (dialect : Dialect) (t : Text) : Except Fault Json :=
  match value dialect dialect.nestingLimit (skipSpace t) with
  | .error fault => .error fault
  | .ok (v, rest) =>
    match skipSpace rest with
    | [] => .ok v
    | c :: behind => .error (.misplaced .extraData (c :: behind))

/-- Reads strict JSON. -/
def strictDocument (t : Text) : Except Fault Json :=
  if t.head? = some Text.byteOrderMark then .error (.misplaced .byteOrderMark t)
  else document strict t

/-- The offset of a fault in the text that was read, if the fault has a place. -/
def Fault.offset? (t : Text) : Fault → Option Nat
  | .misplaced _ rest => some (t.length - rest.length)
  | _ => none

/-- The wording of a fault in the text that was read. -/
def Fault.message (t : Text) : Fault → Text
  | .misplaced cause rest =>
    cause.message ++ ": " ++ (t.place (t.length - rest.length)).describe
  | .constant name => "Unexpected token " ++ name
  | .tooManyDigits count =>
    "Exceeds the limit (" ++ Text.ofNat digitLimit ++
      " digits) for integer string conversion: value has " ++ Text.ofNat count ++
      " digits; use sys.set_int_max_str_digits() to increase the limit"
  | .tooDeep => "document nested too deeply"

end Rulebook.Json.Reader
