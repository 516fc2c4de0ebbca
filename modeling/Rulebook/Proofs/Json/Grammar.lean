import Rulebook.Json.Reader
import Mathlib

/-!
# The grammar of JSON texts

Which texts are JSON and what they stand for, as relations between a text and a value, one for each
rule of the grammar. No reader occurs here: a rule says how a text is put together from the texts of
its parts, with white space wherever the grammar allows it.

Two limits run through the relations. `Value digits levels` holds of the texts of values in which at
most so many arrays and objects are open at once and no integer has more digits; without regard to
limits a text is JSON if it is a `Sentence` for some of them.
-/

set_option autoImplicit false

namespace Rulebook.Json.Grammar

open Reader (Piece Numeral assemble)

/-! ## White space -/

/-- White space: blanks, tabulators, line feeds and carriage returns, or nothing. -/
def IsSpace (t : Text) : Prop := ∀ c ∈ t, c ∈ ([' ', '\t', '\n', '\r'] : Text)

/-! ## Strings -/

/-- The letters that may follow a backslash by themselves, with what they stand for there. -/
def shortEscapes : List (CodePoint × CodePoint) := [
  ('"', '"'), ('\\', '\\'), ('/', '/'), ('b', CodePoint.ofNat 0x8), ('f', CodePoint.ofNat 0xC),
  ('n', CodePoint.ofNat 0xA), ('r', CodePoint.ofNat 0xD), ('t', CodePoint.ofNat 0x9)]

/-- The ways to write one piece of a string. A control character, a quote and a backslash never stand
for themselves. -/
inductive Spelling : Text → Piece → Prop where
  | plain {c : CodePoint} (printable : 0x20 ≤ c.val) (no_quote : c ≠ '"') (no_escape : c ≠ '\\') :
      Spelling [c] (.raw c)
  | short {letter c : CodePoint} (listed : (letter, c) ∈ shortEscapes) :
      Spelling ['\\', letter] (.raw c)
  | unicode {a b c d unit : CodePoint} (digits : Reader.hexUnit? a b c d = some unit) :
      Spelling ['\\', 'u', a, b, c, d] (.escaped unit)

/-- What stands between the quotes of a string. -/
inductive Body : Text → List Piece → Prop where
  | nil : Body [] []
  | cons {t more : Text} {piece : Piece} {pieces : List Piece} (first : Spelling t piece)
      (rest : Body more pieces) : Body (t ++ more) (piece :: pieces)

/-- A string with the text it stands for. -/
inductive StringText : Text → Text → Prop where
  | quoted {body : Text} {pieces : List Piece} (h : Body body pieces) :
      StringText ('"' :: (body ++ (['"'] : Text))) (assemble pieces)

/-! ## Numerals -/

/-- One digit or more. -/
def IsDigits (t : Text) : Prop := t ≠ [] ∧ ∀ c ∈ t, c.isDigit = true

/-- The digits before the point: a zero, or digits that do not begin with one. -/
inductive Whole : Text → Prop where
  | zero : Whole ['0']
  | digits {c : CodePoint} {more : Text} (digit : c.isDigit = true) (nonzero : c ≠ '0')
      (rest : ∀ d ∈ more, d.isDigit = true) : Whole (c :: more)

/-- A fraction or none, with its digits. -/
inductive Fraction : Text → Text → Prop where
  | none : Fraction [] []
  | some {digits : Text} (h : IsDigits digits) : Fraction ('.' :: digits) digits

/-- The signs of an exponent. -/
def exponentSigns : List (Text × Bool) := [([], false), (['+'], false), (['-'], true)]

/-- An integer of a sign and a magnitude. -/
def signedInt (negative : Bool) (digits : Text) : Int :=
  if negative then -(Text.digitsValue digits : Int) else Text.digitsValue digits

/-- An exponent or none. -/
inductive Exponent : Text → Option Int → Prop where
  | none : Exponent [] none
  | some {letter : CodePoint} {sign digits : Text} {negative : Bool}
      (is_letter : letter = 'e' ∨ letter = 'E') (is_sign : (sign, negative) ∈ exponentSigns)
      (h : IsDigits digits) :
      Exponent (letter :: (sign ++ digits)) (some (signedInt negative digits))

/-- A numeral: a minus sign or none, digits, a fraction or none, an exponent or none. -/
inductive NumeralText : Text → Numeral → Prop where
  | parts {whole point fraction power : Text} {negative : Bool} {exponent : Option Int}
      (is_whole : Whole whole) (is_fraction : Fraction point fraction)
      (is_exponent : Exponent power exponent) :
      NumeralText ((if negative then (['-'] : Text) else []) ++ (whole ++ (point ++ power)))
        { negative, whole, fraction, exponent }

/-- A numeral without fraction and exponent is an integer. -/
def IsInteger (n : Numeral) : Prop := n.fraction = [] ∧ n.exponent = none

/-- Whether a numeral is an integer is told by its fraction and its exponent. -/
instance (n : Numeral) : Decidable (IsInteger n) := inferInstanceAs (Decidable (_ ∧ _))

/-- The number that a numeral stands for: an integer, or the nearest binary64 number. -/
def number (n : Numeral) : Json :=
  if IsInteger n then .int (signedInt n.negative n.whole)
  else .float (Binary64.ofDecimal n.negative (Text.digitsValue (n.whole ++ n.fraction))
    (n.exponent.getD 0 - n.fraction.length))

/-! ## Arrays and objects -/

section Sequence

variable {α : Type} (entry : Text → α → Prop)

/-- Entries with commas between them, at least one, and white space around each. -/
inductive Entries : Text → List α → Prop where
  | last {before body after : Text} {a : α} (space : IsSpace before) (h : entry body a)
      (space' : IsSpace after) : Entries (before ++ (body ++ after)) [a]
  | more {before body after rest : Text} {a : α} {others : List α} (space : IsSpace before)
      (h : entry body a) (space' : IsSpace after) (next : Entries rest others) :
      Entries (before ++ (body ++ (after ++ (',' : CodePoint) :: rest))) (a :: others)

/-- What stands between brackets: white space, or entries. -/
inductive Sequence : Text → List α → Prop where
  | empty {space : Text} (h : IsSpace space) : Sequence space []
  | filled {t : Text} {entries : List α} (h : Entries entry t entries) : Sequence t entries

end Sequence

/-- A member of an object: a string as its key, a colon and a value. -/
inductive Member (value : Text → Json → Prop) : Text → Text × Json → Prop where
  | pair {name key before after body : Text} {v : Json} (is_key : StringText name key)
      (space : IsSpace before) (space' : IsSpace after) (h : value body v) :
      Member value (name ++ (before ++ (':' : CodePoint) :: (after ++ body))) (key, v)

/-! ## Values and texts -/

/-- A value whose arrays and objects hold values of a given relation; without one no array and no
object may be opened. -/
inductive ValueWith (digits : Nat) (nested : Option (Text → Json → Prop)) : Text → Json → Prop where
  | word {t : Text} {v : Json} (listed : (t, v) ∈ Reader.words) : ValueWith digits nested t v
  | number {t : Text} {n : Numeral} (h : NumeralText t n)
      (short : IsInteger n → n.whole.length ≤ digits) : ValueWith digits nested t (number n)
  | string {t s : Text} (h : StringText t s) : ValueWith digits nested t (.str s)
  | array {value : Text → Json → Prop} {t : Text} {items : List Json} (opens : nested = some value)
      (h : Sequence value t items) : ValueWith digits nested ('[' :: (t ++ ([']'] : Text))) (.arr items)
  | object {value : Text → Json → Prop} {t : Text} {pairs : List (Text × Json)}
      (opens : nested = some value) (h : Sequence (Member value) t pairs) :
      ValueWith digits nested ('{' :: (t ++ (['}'] : Text))) (.obj (Members.ofPairs pairs))

/-- A value in which at most so many arrays and objects are open at once and no integer has more
digits. -/
def Value (digits : Nat) : (levels : Nat) → Text → Json → Prop
  | 0 => ValueWith digits none
  | levels + 1 => ValueWith digits (some (Value digits levels))

/-- A text of one value with white space around it. -/
inductive Sentence (digits levels : Nat) : Text → Json → Prop where
  | spaced {before body after : Text} {v : Json} (space : IsSpace before)
      (h : Value digits levels body v) (space' : IsSpace after) :
      Sentence digits levels (before ++ (body ++ after)) v

/-- A value of the grammar within whatever limits. -/
def AnyValue (t : Text) (v : Json) : Prop := ∃ digits levels, Value digits levels t v

end Rulebook.Json.Grammar
