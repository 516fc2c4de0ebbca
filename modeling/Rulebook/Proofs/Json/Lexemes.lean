import Rulebook.Proofs.Json.Grammar

/-!
# Reading the words of a JSON text

White space, strings and numerals are read as the grammar has them. Each is shown in two directions.
What the grammar calls a string or a numeral is read in full, whatever stands behind it; for a
numeral that needs a look at the next code point, because a reader takes the longest numeral it can.
And what is read is a string or a numeral with the rest of the text behind it.
-/

set_option autoImplicit false

namespace Rulebook.Json.Grammar

open Reader

/-! ## White space -/

/-- There are four blanks. -/
theorem isSpace_iff {c : CodePoint} :
    isSpace c = true ↔ c ∈ ([' ', '\t', '\n', '\r'] : Text) := by
  simp [isSpace, Fin.ext_iff, CodePoint.ofChar, or_assoc]

/-- The empty text is blank throughout. -/
theorem IsSpace.nil : IsSpace [] := nofun

/-- Blanks in front of a text are skipped with those that begin it. -/
theorem skipSpace_append {space t : Text} (h : IsSpace space) :
    skipSpace (space ++ t) = skipSpace t :=
  List.dropWhile_append_of_pos fun c mem => isSpace_iff.mpr (h c mem)

/-- White space can be cut off a text, and what is left does not begin with any. -/
theorem exists_space (t : Text) :
    ∃ space, IsSpace space ∧ t = space ++ skipSpace t ∧
      ∀ c ∈ (skipSpace t).head?, isSpace c = false := by
  refine ⟨t.takeWhile isSpace, ?_, (List.takeWhile_append_dropWhile ..).symm, ?_⟩
  · intro c mem
    exact isSpace_iff.mp (List.mem_takeWhile_imp mem)
  · intro c mem
    have := List.head?_dropWhile_not isSpace t
    simp [skipSpace] at mem
    simp_all

/-- What is no blank is not skipped. -/
theorem skipSpace_cons {c : CodePoint} {t : Text} (h : isSpace c = false) :
    skipSpace (c :: t) = c :: t := by
  rw [skipSpace, List.dropWhile_cons_of_neg (by simp [h])]

/-! ## Strings -/

/-- The letters behind a backslash are those of the table. -/
theorem shortEscape?_eq_some {letter c : CodePoint} :
    shortEscape? letter = some c ↔ (letter, c) ∈ shortEscapes := by
  constructor
  · intro h
    unfold shortEscape? at h
    split_ifs at h with h1 h2 h3 h4 h5 h6
    · cases h
      rcases h1 with rfl | rfl | rfl <;> simp [shortEscapes]
    all_goals
      cases h
      subst_vars
      simp [shortEscapes]
  · intro listed
    simp only [shortEscapes, List.mem_cons, Prod.mk.injEq, List.not_mem_nil, or_false] at listed
    rcases listed with ⟨rfl, rfl⟩ | ⟨rfl, rfl⟩ | ⟨rfl, rfl⟩ | ⟨rfl, rfl⟩ | ⟨rfl, rfl⟩ | ⟨rfl, rfl⟩ |
      ⟨rfl, rfl⟩ | ⟨rfl, rfl⟩ <;> rfl

/-- No letter of a short escape is that of an escape by digits. -/
theorem letter_ne_u {letter c : CodePoint} (listed : (letter, c) ∈ shortEscapes) :
    letter ≠ CodePoint.ofChar 'u' := by
  rintro rfl
  simp [shortEscapes, CodePoint.ofChar] at listed

/-- A quotation mark ends the pieces. -/
theorem pieces_quote (start : Text) (found : List Piece) (rest : Text) :
    pieces start found ('"' :: rest) = .ok (found.reverse, rest) := by
  rw [pieces.eq_def]
  rfl

/-- A piece is read from each of its spellings. -/
theorem pieces_spelling {t : Text} {piece : Piece} (h : Spelling t piece) (start : Text)
    (found : List Piece) {rest : Text} (more : rest ≠ []) :
    pieces start found (t ++ rest) = pieces start (piece :: found) rest := by
  have escape_ne_quote : CodePoint.ofChar '\\' ≠ CodePoint.ofChar '"' := by decide
  rw [pieces.eq_def]
  cases h with
  | plain printable no_quote no_escape =>
    simp only [List.cons_append, List.nil_append, if_neg no_quote, if_neg no_escape,
      if_neg (Nat.not_lt.mpr printable)]
  | short listed =>
    simp only [List.cons_append, List.nil_append, if_neg escape_ne_quote, if_true,
      if_neg (letter_ne_u listed), shortEscape?_eq_some.mpr listed]
  | unicode digits =>
    obtain ⟨next, tail, rfl⟩ := List.exists_cons_of_ne_nil more
    simp only [List.cons_append, List.nil_append, if_neg escape_ne_quote, if_true, digits]

/-- What stands in a string is read as its pieces, if anything follows. -/
theorem pieces_append {body : Text} {ps : List Piece} (h : Body body ps) (start : Text)
    (found : List Piece) {rest : Text} (more : rest ≠ []) :
    pieces start found (body ++ rest) = pieces start (ps.reverse ++ found) rest := by
  induction h generalizing found with
  | nil => rfl
  | cons first _ ih =>
    rw [List.append_assoc, pieces_spelling first start found (by simp [more]), ih,
      List.reverse_cons, List.append_assoc, List.singleton_append]

/-- The pieces of a body are read up to the quotation mark behind it. -/
theorem pieces_body {body : Text} {ps : List Piece} (h : Body body ps) (start rest : Text) :
    pieces start [] (body ++ (('"' : CodePoint) :: rest)) = .ok (ps, rest) := by
  rw [pieces_append h start [] (List.cons_ne_nil _ _), pieces_quote, List.append_nil,
    List.reverse_reverse]

/-- What is read as pieces is the body of a string and a quote. -/
theorem exists_body_of_pieces {start : Text} {found : List Piece} {t : Text} {ps : List Piece}
    {rest : Text} (h : pieces start found t = .ok (ps, rest)) :
    ∃ body more, Body body more ∧ ps = found.reverse ++ more ∧
      t = body ++ (('"' : CodePoint) :: rest) := by
  -- What a spelling begins is a body if what follows it is one.
  have step {spelled tail : Text} {piece : Piece} {found : List Piece}
      (first : Spelling spelled piece)
      (h : ∃ body more, Body body more ∧ ps = (piece :: found).reverse ++ more ∧
        tail = body ++ (('"' : CodePoint) :: rest)) :
      ∃ body more, Body body more ∧ ps = found.reverse ++ more ∧
        spelled ++ tail = body ++ (('"' : CodePoint) :: rest) := by
    obtain ⟨body, more, is_body, rfl, rfl⟩ := h
    exact ⟨spelled ++ body, piece :: more, .cons first is_body, by simp, by simp⟩
  fun_induction pieces start found t with
  | case1 | case3 | case5 | case6 | case8 | case9 => cases h
  | case2 found tail =>
    cases h
    exact ⟨[], [], .nil, by simp, rfl⟩
  | case4 found a b c d next tail unit digits _ ih => exact step (.unicode digits) (ih h)
  | case7 found letter behind _ plain known _ ih =>
    exact step (.short (shortEscape?_eq_some.mp known)) (ih h)
  | case10 found c behind no_quote no_escape printable ih =>
    exact step (.plain (Nat.not_lt.mp printable) no_quote no_escape) (ih h)

/-! ## Numerals -/

/-- Whether a numeral cannot go on with a text: it begins with no digit, point or letter of an
exponent. -/
def EndsNumeral (rest : Text) : Prop :=
  ∀ c ∈ rest.head?, c.isDigit = false ∧ c ≠ '.' ∧ c ≠ 'e' ∧ c ≠ 'E'

/-- A digit is no other mark. -/
theorem ne_of_isDigit {c mark : CodePoint} (digit : c.isDigit = true)
    (other : mark.isDigit = false) : c ≠ mark := by
  rintro rfl
  rw [digit] at other
  cases other

/-- Digits are taken and dropped up to what is no digit. -/
theorem takeWhile_digits {digits rest : Text} (all : ∀ c ∈ digits, c.isDigit = true)
    (stop : ∀ c ∈ rest.head?, c.isDigit = false) :
    (digits ++ rest).takeWhile CodePoint.isDigit = digits ∧
      (digits ++ rest).dropWhile CodePoint.isDigit = rest := by
  rw [List.takeWhile_append_of_pos all, List.dropWhile_append_of_pos all]
  cases rest with
  | nil => simp
  | cons c more =>
    have : c.isDigit = false := stop c rfl
    simp [this]

/-! ### Digits before the point -/

/-- A whole number is read up to what is no digit. -/
theorem whole?_append {whole rest : Text} (h : Whole whole)
    (stop : ∀ c ∈ rest.head?, c.isDigit = false) : whole? (whole ++ rest) = some (whole, rest) := by
  cases h with
  | zero => rfl
  | @digits c more digit nonzero all =>
    have all_digits : ∀ d ∈ c :: more, d.isDigit = true := by simpa using ⟨digit, all⟩
    have run := takeWhile_digits all_digits stop
    rw [List.cons_append] at run ⊢
    rw [whole?, if_neg nonzero, if_pos digit, run.1, run.2]

/-- What is read as a whole number is one. -/
theorem exists_whole {t whole rest : Text} (h : whole? t = some (whole, rest)) :
    Whole whole ∧ t = whole ++ rest := by
  cases t with
  | nil => cases h
  | cons c more =>
    rw [whole?] at h
    split_ifs at h with zero digit
    · cases h
      subst zero
      exact ⟨.zero, rfl⟩
    · cases h
      rw [List.takeWhile_cons_of_pos digit]
      refine ⟨.digits digit zero fun d mem => List.mem_takeWhile_imp mem, ?_⟩
      rw [← List.takeWhile_cons_of_pos digit, List.takeWhile_append_dropWhile]

/-! ### Fractions -/

/-- A fraction is read up to what neither is a digit nor opens another fraction. -/
theorem fraction_append {point digits rest : Text} (h : Fraction point digits)
    (stop : ∀ c ∈ rest.head?, c.isDigit = false ∧ c ≠ '.') :
    fraction (point ++ rest) = (digits, rest) := by
  cases h with
  | none =>
    rw [List.nil_append]
    match rest, stop with
    | [], _ => rfl
    | [_], _ => rfl
    | c :: d :: more, stop =>
      have no_point : c ≠ '.' := (stop c rfl).2
      rw [fraction, if_neg fun h => no_point h.1]
  | some is_digits =>
    obtain ⟨nonempty, all⟩ := is_digits
    obtain ⟨d, more, rfl⟩ := List.exists_cons_of_ne_nil nonempty
    have run := takeWhile_digits all fun c mem => (stop c mem).1
    have digit : d.isDigit = true := all d List.mem_cons_self
    rw [List.cons_append] at run
    rw [List.cons_append, List.cons_append, fraction, if_pos ⟨rfl, digit⟩, run.1, run.2]

/-- What is read as a fraction is one. -/
theorem exists_fraction {t digits rest : Text} (h : fraction t = (digits, rest)) :
    ∃ point, Fraction point digits ∧ t = point ++ rest := by
  unfold fraction at h
  split at h
  · next point digit more =>
    split_ifs at h with led
    · cases h
      obtain ⟨rfl, digit⟩ := led
      refine ⟨_, .some ⟨?_, fun c mem => List.mem_takeWhile_imp mem⟩, ?_⟩
      · rw [List.takeWhile_cons_of_pos digit]
        exact List.cons_ne_nil _ _
      · rw [List.cons_append, List.takeWhile_append_dropWhile]
    · cases h
      exact ⟨[], .none, rfl⟩
  · cases h
    exact ⟨[], .none, rfl⟩

/-! ### Exponents -/

/-- The sign of an exponent is read in front of its digits. -/
theorem signed_append {sign digits rest : Text} {negative : Bool}
    (is_sign : (sign, negative) ∈ exponentSigns) (is_digits : IsDigits digits) :
    Text.signed (sign ++ (digits ++ rest)) = (negative, digits ++ rest) := by
  obtain ⟨nonempty, all⟩ := is_digits
  obtain ⟨d, more, rfl⟩ := List.exists_cons_of_ne_nil nonempty
  have digit : d.isDigit = true := all d List.mem_cons_self
  simp only [exponentSigns, List.mem_cons, Prod.mk.injEq, List.not_mem_nil, or_false] at is_sign
  rcases is_sign with ⟨rfl, rfl⟩ | ⟨rfl, rfl⟩ | ⟨rfl, rfl⟩
  · rw [List.nil_append, List.cons_append, Text.signed, if_neg (ne_of_isDigit digit (by decide)),
      if_neg (ne_of_isDigit digit (by decide))]
  · rfl
  · rfl

/-- An exponent is read up to what ends a numeral. -/
theorem exponent_append {power rest : Text} {n : Option Int} (h : Exponent power n)
    (stop : EndsNumeral rest) : exponent (power ++ rest) = (n, rest) := by
  cases h with
  | none =>
    rw [List.nil_append]
    cases rest with
    | nil => rfl
    | cons c more =>
      obtain ⟨-, -, lower, upper⟩ := stop c rfl
      rw [exponent, if_neg fun h => h.elim lower upper]
  | @some letter sign digits negative is_letter is_sign is_digits =>
    have run := takeWhile_digits is_digits.2 fun c mem => (stop c mem).1
    obtain ⟨d, more, rfl⟩ := List.exists_cons_of_ne_nil is_digits.1
    rw [List.cons_append, List.append_assoc, exponent, if_pos is_letter,
      signed_append is_sign is_digits]
    dsimp only
    rw [run.1, run.2]
    rfl

/-- What is read as the sign of an exponent is one. -/
theorem exists_sign (t : Text) :
    ∃ sign, (sign, (Text.signed t).1) ∈ exponentSigns ∧ t = sign ++ (Text.signed t).2 := by
  cases t with
  | nil => exact ⟨[], by simp [Text.signed, exponentSigns], rfl⟩
  | cons c more =>
    rw [Text.signed]
    split_ifs with minus plus
    · subst minus
      exact ⟨['-'], by simp [exponentSigns], rfl⟩
    · subst plus
      exact ⟨['+'], by simp [exponentSigns], rfl⟩
    · exact ⟨[], by simp [exponentSigns], rfl⟩

/-- What is read as an exponent is one. -/
theorem exists_exponent {t rest : Text} {n : Option Int} (h : exponent t = (n, rest)) :
    ∃ power, Exponent power n ∧ t = power ++ rest := by
  cases t with
  | nil =>
    cases h
    exact ⟨[], .none, rfl⟩
  | cons letter more =>
    rw [exponent] at h
    split_ifs at h with is_letter
    · obtain ⟨sign, is_sign, signed⟩ := exists_sign more
      dsimp only at h
      split at h
      · cases h
        exact ⟨[], .none, rfl⟩
      · next d ds run =>
        cases h
        have digits : IsDigits (d :: ds) := by
          rw [← run]
          exact ⟨by rw [run]; exact List.cons_ne_nil _ _, fun c mem => List.mem_takeWhile_imp mem⟩
        refine ⟨letter :: (sign ++ (d :: ds)), .some is_letter is_sign digits, ?_⟩
        rw [List.cons_append, List.append_assoc, ← run, List.takeWhile_append_dropWhile, ← signed]
    · cases h
      exact ⟨[], .none, rfl⟩

/-! ### Whole numerals -/

/-- Behind a fraction stands no digit and no point. -/
theorem stops_before_exponent {power rest : Text} {n : Option Int} (h : Exponent power n)
    (stop : EndsNumeral rest) : ∀ c ∈ (power ++ rest).head?, c.isDigit = false ∧ c ≠ '.' := by
  intro c mem
  cases h with
  | none => exact ⟨(stop c mem).1, (stop c mem).2.1⟩
  | some is_letter =>
    cases mem
    rcases is_letter with rfl | rfl <;> decide

/-- Neither a fraction nor what may stand in its place begins with a digit. -/
theorem stops_before_fraction {point digits rest : Text} (h : Fraction point digits)
    (stop : ∀ c ∈ rest.head?, c.isDigit = false) :
    ∀ c ∈ (point ++ rest).head?, c.isDigit = false := by
  intro c mem
  cases h with
  | none => exact stop c mem
  | some =>
    cases mem
    decide

/-- A whole number begins with a digit. -/
theorem head_of_whole {whole : Text} (h : Whole whole) :
    ∃ d more, whole = d :: more ∧ d.isDigit = true := by
  cases h with
  | zero => exact ⟨'0', [], rfl, by decide⟩
  | digits digit => exact ⟨_, _, rfl, digit⟩

/-- The minus sign that a text may begin with, cut off. -/
def cutMinus (t : Text) : Bool × Text :=
  match Text.dropPrefix? "-" t with
  | some rest => (true, rest)
  | none => (false, t)

/-- The minus sign of a numeral or nothing. -/
def minus (negative : Bool) : Text := if negative then ['-'] else []

/-- A minus is read in front of a digit. -/
theorem cutMinus_append (negative : Bool) {t : Text}
    (unsigned : ∀ c ∈ t.head?, c.isDigit = true) :
    cutMinus (minus negative ++ t) = (negative, t) := by
  cases negative with
  | true => rfl
  | false =>
    cases t with
    | nil => rfl
    | cons d more =>
      have other : CodePoint.ofChar '-' ≠ d := Ne.symm (ne_of_isDigit (unsigned d rfl) (by decide))
      have no_sign : Text.dropPrefix? "-" (d :: more) = none := if_neg other
      change cutMinus (d :: more) = _
      rw [cutMinus, no_sign]

/-- A text is the minus that is read from it and the rest. -/
theorem eq_minus_append (t : Text) : t = minus (cutMinus t).1 ++ (cutMinus t).2 := by
  cases t with
  | nil => rfl
  | cons c more =>
    by_cases sign : CodePoint.ofChar '-' = c
    · subst sign
      rfl
    · have no_sign : Text.dropPrefix? "-" (c :: more) = none := if_neg sign
      rw [cutMinus, no_sign]
      rfl

/-- A numeral is a minus sign or none, digits, a fraction and an exponent, read in turn. -/
theorem numeral?_eq (t : Text) : numeral? t =
    match whole? (cutMinus t).2 with
    | none => none
    | some (whole, rest) =>
      some ({ negative := (cutMinus t).1, whole, fraction := (fraction rest).1,
              exponent := (exponent (fraction rest).2).1 }, (exponent (fraction rest).2).2) := rfl

/-- A numeral is read in full where it cannot go on. -/
theorem numeral?_append {t rest : Text} {n : Numeral} (h : NumeralText t n)
    (stop : EndsNumeral rest) : numeral? (t ++ rest) = some (n, rest) := by
  cases h with
  | @parts whole point fraction power negative exponent is_whole is_fraction is_exponent =>
    have before_power := stops_before_exponent is_exponent stop
    have before_point := stops_before_fraction is_fraction fun c mem => (before_power c mem).1
    have unsigned : ∀ c ∈ (whole ++ (point ++ (power ++ rest))).head?, c.isDigit = true := by
      obtain ⟨d, more, rfl, digit⟩ := head_of_whole is_whole
      rintro c ⟨⟩
      exact digit
    have sign := cutMinus_append negative unsigned
    rw [minus] at sign
    simp only [List.append_assoc]
    rw [numeral?_eq, sign]
    dsimp only
    rw [whole?_append is_whole before_point]
    dsimp only
    rw [fraction_append is_fraction before_power, exponent_append is_exponent stop]

/-- What is read as a numeral is one. -/
theorem exists_numeralText {t rest : Text} {n : Numeral} (h : numeral? t = some (n, rest)) :
    ∃ body, NumeralText body n ∧ t = body ++ rest := by
  rw [numeral?_eq] at h
  split at h
  · cases h
  · next whole behind read =>
    rcases read_fraction : fraction behind with ⟨digits, left⟩
    rcases read_power : exponent left with ⟨n, last⟩
    rw [read_fraction, read_power] at h
    cases h
    obtain ⟨is_whole, unsigned_eq⟩ := exists_whole read
    obtain ⟨point, is_fraction, rfl⟩ := exists_fraction read_fraction
    obtain ⟨power, is_exponent, rfl⟩ := exists_exponent read_power
    refine ⟨_, .parts is_whole is_fraction is_exponent, ?_⟩
    simp only [List.append_assoc]
    rw [← unsigned_eq]
    exact eq_minus_append t

/-- The number of a numeral is its value, unless it is an integer of too many digits. -/
theorem value_eq (n : Numeral) :
    n.value =
      if IsInteger n ∧ digitLimit < n.whole.length then .error (.tooManyDigits n.whole.length)
      else .ok (number n) := by
  unfold number
  by_cases integer : IsInteger n
  · rw [Numeral.value, if_pos (show n.fraction = [] ∧ n.exponent = none from integer),
      if_pos integer]
    by_cases long : digitLimit < n.whole.length
    · rw [if_pos long, if_pos ⟨integer, long⟩]
    · rw [if_neg long, if_neg fun h => long h.2]
      rfl
  · rw [Numeral.value, if_neg (show ¬ (n.fraction = [] ∧ n.exponent = none) from integer),
      if_neg integer, if_neg fun h => integer h.1]

end Rulebook.Json.Grammar
