import Rulebook.Json.Writer
import Rulebook.Proofs.Json.Members
import Rulebook.Proofs.Json.Recognition

/-!
# The written form is in the grammar

The text that is written for a value is a text of the grammar, and what it stands for there is the
value itself. This is so of every value without floats whose integers are not too long, whose
objects repeat no key, and in whose texts no first half of a surrogate pair stands directly before a
second half: read back, those two would be joined (`Writable`).

A text is written code point by code point. Most code points are written as one piece of a string;
one above U+FFFF takes two, the halves of its surrogate pair, which join again when the text is read.
A half that stands by itself stays one: what follows it is not the other half, neither as it is nor
as the beginning of a pair.
-/

set_option autoImplicit false

namespace Rulebook.Members

/-- Pairs with distinct keys are put one behind the other. -/
theorem foldl_put_eq_append {pairs : List (Text × Json)} {before : Members}
    (distinct : (keys (before ++ pairs)).Nodup) :
    pairs.foldl (fun members (key, value) => put key value members) before =
      before ++ pairs := by
  induction pairs generalizing before with
  | nil => exact (List.append_nil before).symm
  | cons pair rest ih =>
    obtain ⟨key, value⟩ := pair
    have new : key ∉ before.keys := by
      rw [Members.keys, List.map_append, List.nodup_append] at distinct
      exact fun mem => distinct.2.2 key mem key List.mem_cons_self rfl
    rw [List.append_cons] at distinct
    rw [List.append_cons, ← ih distinct, ← put_eq_append new]
    rfl

/-- Pairs without repeated keys are the members that they leave. -/
theorem ofPairs_eq_self {pairs : List (Text × Json)} (distinct : (keys pairs).Nodup) :
    ofPairs pairs = pairs :=
  foldl_put_eq_append distinct

end Rulebook.Members

namespace Rulebook.Json.Grammar

open Reader

/-! ## Integers -/

/-- The digits of a number are digits. -/
theorem isDigit_of_mem_ofNat {n : Nat} {c : CodePoint} (h : c ∈ Text.ofNat n) :
    c.isDigit = true := by
  obtain ⟨d, mem, rfl⟩ := List.mem_map.mp h
  have digit := Nat.isDigit_of_mem_toDigits (by decide) (by decide) mem
  simp only [Char.isDigit, Bool.and_eq_true, decide_eq_true_iff, ge_iff_le] at digit
  rw [CodePoint.isDigit, Bool.and_eq_true, decide_eq_true_iff, decide_eq_true_iff]
  exact digit

/-- A number is the value of its digits. -/
theorem digitsValue_ofNat (n : Nat) : Text.digitsValue (Text.ofNat n) = n := by
  rw [Text.digitsValue, Text.ofNat, List.foldl_map]
  exact Nat.ofDigitChars_toDigits (by decide) (by decide)

/-- A number below a power of ten has no more digits than the power. -/
theorem length_ofNat_le {n k : Nat} (positive : 0 < k) (h : n < 10 ^ k) :
    (Text.ofNat n).length ≤ k := by
  rw [Text.ofNat, List.length_map]
  exact (Nat.length_toDigits_le_iff (by decide) positive).mpr h

/-- The decimal numeral of a number other than zero begins with a digit other than zero. -/
theorem exists_first_digit {n : Nat} (positive : 0 < n) :
    ∃ d more, Nat.toDigits 10 n = d :: more ∧ CodePoint.ofChar d ≠ CodePoint.ofChar '0' := by
  induction n using Nat.strongRecOn with
  | ind n ih =>
    by_cases small : n < 10
    · rw [Nat.toDigits_of_lt_base small]
      refine ⟨_, [], rfl, ?_⟩
      interval_cases n <;> decide
    · obtain ⟨d, more, digits, nonzero⟩ := ih (n / 10) (by omega) (by omega)
      rw [Nat.toDigits_of_base_le (by decide) (by omega), digits]
      exact ⟨d, _, rfl, nonzero⟩

/-- The digits of a number are a whole number. -/
theorem whole_ofNat (n : Nat) : Whole (Text.ofNat n) := by
  rcases Nat.eq_zero_or_pos n with rfl | positive
  · exact .zero
  · obtain ⟨d, more, digits, nonzero⟩ := exists_first_digit positive
    have all {c : CodePoint} (mem : c ∈ CodePoint.ofChar d :: more.map CodePoint.ofChar) :
        c.isDigit = true := by
      apply isDigit_of_mem_ofNat (n := n)
      rwa [Text.ofNat, digits]
    rw [Text.ofNat, digits]
    exact .digits (all List.mem_cons_self) nonzero fun c mem => all (List.mem_cons_of_mem _ mem)

/-- The text of an integer is a numeral without fraction and exponent. -/
theorem numeralText_ofInt (n : Int) :
    NumeralText (Text.ofInt n) ⟨decide (n < 0), Text.ofNat n.natAbs, [], none⟩ := by
  have signed (negative : Bool) (m : Nat) :
      NumeralText (minus negative ++ Text.ofNat m) ⟨negative, Text.ofNat m, [], none⟩ := by
    have parts : NumeralText (minus negative ++ (Text.ofNat m ++ ([] ++ [])))
        ⟨negative, Text.ofNat m, [], none⟩ := .parts (whole_ofNat m) .none .none
    rwa [List.append_nil, List.append_nil] at parts
  cases n with
  | ofNat m =>
    have nonnegative : decide (Int.ofNat m < 0) = false := by simp
    rw [nonnegative]
    exact signed false m
  | negSucc m =>
    have negative : decide (Int.negSucc m < 0) = true := by simp
    rw [negative]
    exact signed true (m + 1)

/-- The numeral of an integer has the integer as its value. -/
theorem number_ofInt (n : Int) :
    number ⟨decide (n < 0), Text.ofNat n.natAbs, [], none⟩ = .int n := by
  rw [number, if_pos ⟨rfl, rfl⟩, signedInt, digitsValue_ofNat]
  congr 1
  split_ifs with negative
  · simp only [decide_eq_true_iff] at negative
    omega
  · simp only [decide_eq_true_iff] at negative
    omega

/-! ## Strings -/

/-- The code points that are written with an escape of one letter, and the letters. -/
def letterEscapes : List (CodePoint × CodePoint) := [
  ('"', '"'), ('\\', '\\'), ('\n', 'n'), ('\r', 'r'), ('\t', 't'), (CodePoint.ofNat 0x8, 'b'),
  (CodePoint.ofNat 0xC, 'f')]

/-- The first and the second half of the surrogate pair of a code point above U+FFFF. -/
def highHalf (c : CodePoint) : CodePoint := CodePoint.ofNat (0xD800 + (c.val - 0x10000) / 0x400)

@[inherit_doc highHalf]
def lowHalf (c : CodePoint) : CodePoint := CodePoint.ofNat (0xDC00 + (c.val - 0x10000) % 0x400)

/-- The pieces that a code point is written as. -/
def piecesOf (c : CodePoint) : List Piece :=
  if c ∈ letterEscapes.map Prod.fst ∨ (0x20 ≤ c.val ∧ c.val ≤ 0x7E) then [.raw c]
  else if c.val < 0x10000 then [.escaped c]
  else [.escaped (highHalf c), .escaped (lowHalf c)]

/-- A code point with a letter is escaped by its letter, which stands for it. -/
theorem escape_of_letter {c letter : CodePoint} (listed : (c, letter) ∈ letterEscapes) :
    escape c = (['\\', letter] : Text) ∧ (letter, c) ∈ shortEscapes := by
  simp only [letterEscapes, List.mem_cons, Prod.mk.injEq, List.not_mem_nil, or_false] at listed
  rcases listed with ⟨rfl, rfl⟩ | ⟨rfl, rfl⟩ | ⟨rfl, rfl⟩ | ⟨rfl, rfl⟩ | ⟨rfl, rfl⟩ | ⟨rfl, rfl⟩ |
    ⟨rfl, rfl⟩
  all_goals exact ⟨rfl, by decide⟩

/-- A code point without a letter is written as it is, or as one or two units. -/
theorem escape_of_no_letter {c : CodePoint} (h : c ∉ letterEscapes.map Prod.fst) :
    escape c =
      if 0x20 ≤ c.val ∧ c.val ≤ 0x7E then [c]
      else if c.val < 0x10000 then escapeUnit c.val
      else escapeUnit (0xD800 + (c.val - 0x10000) / 0x400) ++
        escapeUnit (0xDC00 + (c.val - 0x10000) % 0x400) := by
  simp only [letterEscapes, List.map_cons, List.map_nil, List.mem_cons, List.not_mem_nil, or_false,
    not_or] at h
  obtain ⟨quote, backslash, newline, ret, tab, backspace, feed⟩ := h
  have no_backspace : c.val ≠ 0x8 := fun same => backspace (Fin.ext same)
  have no_feed : c.val ≠ 0xC := fun same => feed (Fin.ext same)
  rw [escape, if_neg quote, if_neg backslash, if_neg newline, if_neg ret, if_neg tab,
    if_neg no_backspace, if_neg no_feed]

/-- A hexadecimal digit has its value. -/
theorem hexValue?_hexDigit {n : Nat} (h : n < 16) : (CodePoint.hexDigit n).hexValue? = some n := by
  interval_cases n <;> rfl

/-- The escape of a unit spells the unit. -/
theorem spelling_escapeUnit (unit : Nat) (h : unit < 0x10000) :
    Spelling (escapeUnit unit) (.escaped (CodePoint.ofNat unit)) := by
  apply Spelling.unicode
  rw [hexUnit?, hexValue?_hexDigit (Nat.mod_lt _ (by decide)),
    hexValue?_hexDigit (Nat.mod_lt _ (by decide)), hexValue?_hexDigit (Nat.mod_lt _ (by decide)),
    hexValue?_hexDigit (Nat.mod_lt _ (by decide))]
  have value : ((unit / 16 / 16 / 16 % 16 * 16 + unit / 16 / 16 % 16) * 16 + unit / 16 % 16) * 16 +
      unit % 16 = unit := by omega
  exact congrArg (fun n => some (CodePoint.ofNat n)) value

/-- One spelling is a body. -/
theorem Body.single {t : Text} {piece : Piece} (h : Spelling t piece) : Body t [piece] := by
  have body : Body (t ++ []) [piece] := .cons h .nil
  rwa [List.append_nil] at body

/-- Two bodies are one. -/
theorem Body.append {t u : Text} {ps qs : List Piece} (h : Body t ps) (h' : Body u qs) :
    Body (t ++ u) (ps ++ qs) := by
  induction h with
  | nil => exact h'
  | cons first _ ih =>
    rw [List.append_assoc, List.cons_append]
    exact .cons first ih

/-- A code point is written as its pieces. -/
theorem body_escape (c : CodePoint) : Body (escape c) (piecesOf c) := by
  rw [piecesOf]
  by_cases letter : c ∈ letterEscapes.map Prod.fst
  · obtain ⟨⟨_, l⟩, listed, rfl⟩ := List.mem_map.mp letter
    obtain ⟨written, short⟩ := escape_of_letter listed
    rw [if_pos (.inl letter), written]
    exact .single (.short short)
  · rw [escape_of_no_letter letter]
    by_cases printable : 0x20 ≤ c.val ∧ c.val ≤ 0x7E
    · have no_quote : c ≠ '"' := by
        rintro rfl
        exact letter (by simp [letterEscapes])
      have no_escape : c ≠ '\\' := by
        rintro rfl
        exact letter (by simp [letterEscapes])
      rw [if_pos printable, if_pos (.inr printable)]
      exact .single (.plain printable.1 no_quote no_escape)
    · rw [if_neg printable, if_neg (not_or.mpr ⟨letter, printable⟩)]
      split_ifs with small
      · have unit := spelling_escapeUnit c.val small
        have same : CodePoint.ofNat c.val = c := Fin.ofNat_val_eq_self c
        rw [same] at unit
        exact .single unit
      · have := c.isLt
        have high := spelling_escapeUnit (0xD800 + (c.val - 0x10000) / 0x400) (by omega)
        have low := spelling_escapeUnit (0xDC00 + (c.val - 0x10000) % 0x400) (by omega)
        exact (Body.single high).append (.single low)

/-- No half of a pair stands directly before the other half. -/
def Unpaired (t : Text) : Prop :=
  t.IsChain fun c d => ¬ (c.isHighSurrogate = true ∧ d.isLowSurrogate = true)

/-- Whether a text has paired surrogates is told pair by pair. -/
instance (t : Text) : Decidable (Unpaired t) := inferInstanceAs (Decidable (List.IsChain _ t))

/-- A piece that stands for itself is put in front. -/
theorem assemble_raw (c : CodePoint) (ps : List Piece) :
    assemble (.raw c :: ps) = c :: assemble ps := by
  cases ps <;> rfl

/-- A unit that makes no pair with the next one is put in front. -/
theorem assemble_escaped {c : CodePoint} {ps : List Piece}
    (apart : ∀ low ∈ ps.head?, ¬ (c.isHighSurrogate = true ∧ ∃ d, low = .escaped d ∧
      d.isLowSurrogate = true)) : assemble (.escaped c :: ps) = c :: assemble ps := by
  rcases ps with _ | ⟨low, more⟩
  · rfl
  · cases low with
    | raw => rfl
    | escaped d =>
      have single : (c.isHighSurrogate && d.isLowSurrogate) = false := by
        have := apart _ rfl
        simpa using this
      rw [assemble, if_neg (by simp [single])]

/-- A number that is no greater than the last code point is the number of one. -/
theorem val_ofNat {n : Nat} (h : n < 0x110000) : (CodePoint.ofNat n).val = n :=
  Nat.mod_eq_of_lt h

/-- The first half of a pair is a first half and no second one. -/
theorem isHighSurrogate_highHalf (c : CodePoint) (large : 0x10000 ≤ c.val) :
    (highHalf c).isHighSurrogate = true ∧ (highHalf c).isLowSurrogate = false := by
  have := c.isLt
  have high : (highHalf c).val = 0xD800 + (c.val - 0x10000) / 0x400 := val_ofNat (by omega)
  simp only [CodePoint.isHighSurrogate, CodePoint.isLowSurrogate, high, Bool.and_eq_true,
    Bool.and_eq_false_iff, decide_eq_true_iff, decide_eq_false_iff_not]
  omega

/-- The second half of a pair is a second half. -/
theorem isLowSurrogate_lowHalf (c : CodePoint) : (lowHalf c).isLowSurrogate = true := by
  have low : (lowHalf c).val = 0xDC00 + (c.val - 0x10000) % 0x400 := val_ofNat (by omega)
  simp only [CodePoint.isLowSurrogate, low, Bool.and_eq_true, decide_eq_true_iff]
  omega

/-- The halves of a code point give it back. -/
theorem joinSurrogates_halves {c : CodePoint} (large : 0x10000 ≤ c.val) :
    CodePoint.joinSurrogates (highHalf c) (lowHalf c) = c := by
  have := c.isLt
  have high : (highHalf c).val = 0xD800 + (c.val - 0x10000) / 0x400 := val_ofNat (by omega)
  have low : (lowHalf c).val = 0xDC00 + (c.val - 0x10000) % 0x400 := val_ofNat (by omega)
  apply Fin.ext
  rw [CodePoint.joinSurrogates, high, low, val_ofNat] <;> omega

/-- A pair of units is put in front as the code point that it stands for. -/
theorem assemble_pair {c : CodePoint} (large : 0x10000 ≤ c.val) (ps : List Piece) :
    assemble (.escaped (highHalf c) :: .escaped (lowHalf c) :: ps) = c :: assemble ps := by
  have pair : ((highHalf c).isHighSurrogate && (lowHalf c).isLowSurrogate) = true := by
    rw [(isHighSurrogate_highHalf c large).1, isLowSurrogate_lowHalf]
    rfl
  rw [assemble, if_pos pair, joinSurrogates_halves large]

/-- The pieces of a code point begin with the second half of a pair only if it is one. -/
theorem low_of_head_piecesOf {c low : CodePoint} (h : Piece.escaped low ∈ (piecesOf c).head?)
    (is_low : low.isLowSurrogate = true) : c.isLowSurrogate = true := by
  rw [piecesOf] at h
  split_ifs at h with raw small
  · cases h
  · cases h
    exact is_low
  · cases h
    rw [(isHighSurrogate_highHalf c (Nat.le_of_not_lt small)).2] at is_low
    cases is_low

/-- Every code point has a piece. -/
theorem piecesOf_ne_nil (c : CodePoint) : piecesOf c ≠ [] := by
  rw [piecesOf]
  split_ifs <;> exact List.cons_ne_nil _ _

/-- The pieces of a text without pairs give it back. -/
theorem assemble_piecesOf {t : Text} (h : Unpaired t) : assemble (t.flatMap piecesOf) = t := by
  induction t with
  | nil => rfl
  | cons c rest ih =>
    rw [Unpaired, List.isChain_cons] at h
    have ih := ih h.2
    rw [List.flatMap_cons]
    by_cases raw : c ∈ letterEscapes.map Prod.fst ∨ (0x20 ≤ c.val ∧ c.val ≤ 0x7E)
    · rw [piecesOf, if_pos raw, List.singleton_append, assemble_raw, ih]
    · by_cases small : c.val < 0x10000
      · rw [piecesOf, if_neg raw, if_pos small, List.singleton_append, assemble_escaped, ih]
        rintro _ mem ⟨high, low, rfl, is_low⟩
        cases rest with
        | nil => cases mem
        | cons d others =>
          rw [List.flatMap_cons, List.head?_append_of_ne_nil _ (piecesOf_ne_nil d)] at mem
          exact h.1 d rfl ⟨high, low_of_head_piecesOf mem is_low⟩
      · rw [piecesOf, if_neg raw, if_neg small, List.cons_append, List.singleton_append,
          assemble_pair (Nat.le_of_not_lt small), ih]

/-- The escapes of a text are a body with its pieces. -/
theorem body_flatMap (t : Text) : Body (t.flatMap escape) (t.flatMap piecesOf) := by
  induction t with
  | nil => exact .nil
  | cons c rest ih => exact (body_escape c).append ih

/-- A text without halves of pairs side by side is written as a string that stands for it. -/
theorem stringText_quote {t : Text} (h : Unpaired t) : StringText (quote t) t := by
  have string := StringText.quoted (body_flatMap t)
  rwa [assemble_piecesOf h] at string

/-! ## Values -/

/-- The values that are read as they were written: no number is a float, no integer has more digits
than an integer may have, no text and no key holds the halves of a pair side by side, and no object
repeats a key. -/
inductive Writable : Json → Prop where
  | null : Writable .null
  | bool (value : Bool) : Writable (.bool value)
  | int {n : Int} (short : n.natAbs < 10 ^ digitLimit) : Writable (.int n)
  | str {t : Text} (h : Unpaired t) : Writable (.str t)
  | arr {items : List Json} (h : ∀ v ∈ items, Writable v) : Writable (.arr items)
  | obj {members : Members} (distinct : members.keys.Nodup)
      (keys : ∀ key ∈ members.keys, Unpaired key)
      (values : ∀ key v, (key, v) ∈ members → Writable v) : Writable (.obj members)

/-- The text of items is that of each item with commas between. -/
theorem textItems_eq_join (items : List Json) :
    textItems items = Text.join ", " (items.map text) := by
  induction items with
  | nil => rfl
  | cons item rest ih =>
    cases rest with
    | nil => rfl
    | cons next others =>
      rw [textItems, ih]
      rfl

/-- The written form of a member. -/
def memberText (member : Text × Json) : Text := quote member.1 ++ (": " : Text) ++ member.2.text

/-- The text of members is that of each member with commas between. -/
theorem textMembers_eq_join (members : Members) :
    textMembers members = Text.join ", " (members.map memberText) := by
  induction members with
  | nil => rfl
  | cons member rest ih =>
    cases rest with
    | nil => rfl
    | cons next others =>
      rw [textMembers, ih]
      rfl

/-- A space is blank. -/
theorem isSpace_blank : IsSpace [' '] := by
  simp [IsSpace]

/-- Written entries with a comma and a blank between neighbours are entries of the grammar. -/
theorem entries_join {α : Type} {grammar : Text → α → Prop} {write : α → Text} {a : α} {as : List α}
    (h : ∀ b ∈ a :: as, grammar (write b) b) :
    Entries grammar (Text.join ", " ((a :: as).map write)) (a :: as) := by
  induction as generalizing a with
  | nil =>
    have last : Entries grammar ([] ++ (write a ++ [])) [a] :=
      .last IsSpace.nil (h a List.mem_cons_self) IsSpace.nil
    rwa [List.append_nil] at last
  | cons next rest ih =>
    have others := (ih fun b mem => h b (List.mem_cons_of_mem _ mem)).of_space isSpace_blank
    have more : Entries grammar ([] ++ (write a ++ ([] ++ (',' : CodePoint) ::
        ([(' ' : CodePoint)] ++ Text.join ", " ((next :: rest).map write))))) (a :: next :: rest) :=
      .more IsSpace.nil (h a List.mem_cons_self) IsSpace.nil others
    rw [List.map_cons, List.map_cons, Text.join, List.append_assoc]
    exact more
    exact nofun

/-- Texts of entries with commas between are a sequence of the grammar. -/
theorem sequence_join {α : Type} {grammar : Text → α → Prop} {write : α → Text} {as : List α}
    (h : ∀ b ∈ as, grammar (write b) b) :
    Sequence grammar (Text.join ", " (as.map write)) as := by
  cases as with
  | nil => exact .empty IsSpace.nil
  | cons a rest => exact .filled (entries_join h)

/-- A key and the text of its value are a member of the grammar. -/
theorem member_memberText {value : Text → Json → Prop} {key : Text} {v : Json}
    (unpaired : Unpaired key) (h : value v.text v) :
    Member value (memberText (key, v)) (key, v) := by
  have pair : Member value
      (quote key ++ ([] ++ (':' : CodePoint) :: ([(' ' : CodePoint)] ++ v.text))) (key, v) :=
    .pair (stringText_quote unpaired) IsSpace.nil isSpace_blank h
  rw [memberText, List.append_assoc]
  exact pair

/-- The written form of a value is a value of the grammar that stands for it. -/
theorem value_text {v : Json} (h : Writable v) {levels : Nat} (fits : v.nesting ≤ levels) :
    Value digitLimit levels v.text v := by
  induction h generalizing levels with
  | null => cases levels <;> exact .word (by simp [words, text])
  | bool value => cases value <;> cases levels <;> exact .word (by simp [words, text])
  | @int n short =>
    have enough : (Text.ofNat n.natAbs).length ≤ digitLimit := length_ofNat_le (by decide) short
    have numeral (nested : Option (Text → Json → Prop)) :
        ValueWith digitLimit nested (Text.ofInt n) (.int n) := by
      rw [← number_ofInt n]
      exact .number (numeralText_ofInt n) fun _ => enough
    rw [text]
    cases levels <;> exact numeral _
  | str unpaired => cases levels <;> exact .string (stringText_quote unpaired)
  | @arr items _ ih =>
    rw [nesting] at fits
    obtain ⟨inner, rfl⟩ : ∃ inner, levels = inner + 1 := ⟨levels - 1, by omega⟩
    have inside : ∀ v ∈ items, Value digitLimit inner v.text v := by
      intro v mem
      have := nesting_le_nestingItems mem
      exact ih v mem (by omega)
    rw [text, textItems_eq_join]
    exact .array rfl (sequence_join inside)
  | @obj members distinct keys _ ih =>
    rw [nesting] at fits
    obtain ⟨inner, rfl⟩ : ∃ inner, levels = inner + 1 := ⟨levels - 1, by omega⟩
    have inside : ∀ member ∈ members,
        Member (Value digitLimit inner) (memberText member) member := by
      rintro ⟨key, v⟩ mem
      have := nesting_le_nestingMembers mem
      exact member_memberText (keys key (List.mem_map_of_mem mem)) (ih key v mem (by omega))
    have object : Value digitLimit (inner + 1) (text (.obj members))
        (.obj (Members.ofPairs members)) := by
      rw [text, textMembers_eq_join]
      exact .object rfl (sequence_join inside)
    rwa [Members.ofPairs_eq_self distinct] at object

end Rulebook.Json.Grammar
