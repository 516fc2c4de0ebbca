import Rulebook.Proofs.Json.Recognition

/-!
# Line ends in JSON texts

What the strict reader makes of a text does not depend on how the lines of the text end. Read the text
with unified line ends beside the text itself: both runs go through the same steps, and what the one
has left is always what the other has left with unified line ends.

* Outside of strings a carriage return and a line feed are white space, and white space is skipped to
  its end (`skipSpace_unifyLineEnds`), so no piece of the reader stops inside of a pair.
* Inside of strings both are control characters, at which the reader stops; neither is a hexadecimal
  digit or the letter of an escape (`pieces_unifyLineEnds`).
* No word and no numeral has either of them (`ignoresLineEnds_scalar`).

From these pieces the equality goes up through entries, values and levels of nesting to
`strictDocument_unifyLineEnds`.
-/

set_option autoImplicit false

namespace Rulebook

namespace Text

/-! ## Unified line ends -/

/-- Whatever is no carriage return is kept where line ends are made one. -/
theorem unifyLineEnds_cons {c : CodePoint} (h : c ≠ '\r') (t : Text) :
    unifyLineEnds (c :: t) = c :: unifyLineEnds t := by
  cases t with
  | nil => simp [unifyLineEnds, h]
  | cons d rest => simp [unifyLineEnds, h]

/-- A carriage return and a line feed become one line feed. -/
theorem unifyLineEnds_pair (t : Text) :
    unifyLineEnds ('\r' :: '\n' :: t) = ('\n' : CodePoint) :: unifyLineEnds t := by
  simp [unifyLineEnds]

/-- A carriage return by itself becomes a line feed. -/
theorem unifyLineEnds_lone {t : Text} (h : t.head? ≠ some (CodePoint.ofChar '\n')) :
    unifyLineEnds ('\r' :: t) = ('\n' : CodePoint) :: unifyLineEnds t := by
  cases t with
  | nil => rfl
  | cons d rest =>
    have hd : d ≠ '\n' := by
      intro hd
      apply h
      rw [hd, List.head?_cons]
    simp [unifyLineEnds, hd]

/-- Induction over the line ends of a text: a code point is no carriage return, or one before a line
feed, or one by itself. -/
@[elab_as_elim]
theorem lineEnd_induction {motive : Text → Prop} (nil : motive [])
    (plain : ∀ c t, c ≠ CodePoint.ofChar '\r' → motive t → motive (c :: t))
    (pair : ∀ t, motive t → motive ('\r' :: '\n' :: t))
    (lone : ∀ t : Text, t.head? ≠ some (CodePoint.ofChar '\n') → motive t → motive ('\r' :: t))
    (t : Text) : motive t := by
  induction t using unifyLineEnds.induct with
  | case1 => exact nil
  | case2 =>
    apply lone [] _ nil
    simp
  | case3 c hc => exact plain c [] hc nil
  | case4 rest ih => exact pair rest ih
  | case5 d rest hd ih =>
    apply lone _ _ ih
    simpa using hd
  | case6 c d rest hc ih => exact plain c _ hc ih

/-- Behind a carriage return, unified line ends go on with a line feed. -/
theorem exists_unifyLineEnds_return (t : Text) :
    ∃ more, unifyLineEnds ('\r' :: t) = ('\n' : CodePoint) :: more := by
  by_cases h : t.head? = some (CodePoint.ofChar '\n')
  · cases t with
    | nil => cases h
    | cons d rest =>
      rw [List.head?_cons, Option.some.injEq] at h
      rw [h, unifyLineEnds_pair]
      exact ⟨_, rfl⟩
  · exact ⟨_, unifyLineEnds_lone h⟩

/-- A code point that ends no line begins a text with unified line ends if and only if it begins the
text. -/
theorem unifyLineEnds_eq_cons {c : CodePoint} (hc : c ≠ '\n') {t more : Text}
    (h : unifyLineEnds t = c :: more) :
    c ≠ '\r' ∧ ∃ rest, t = c :: rest ∧ more = unifyLineEnds rest := by
  cases t with
  | nil => simp [unifyLineEnds] at h
  | cons d rest =>
    by_cases hd : d = '\r'
    · obtain ⟨tail, eq⟩ := exists_unifyLineEnds_return rest
      rw [hd, eq, List.cons.injEq] at h
      exact absurd h.1.symm hc
    · rw [unifyLineEnds_cons hd, List.cons.injEq] at h
      obtain ⟨rfl, rfl⟩ := h
      exact ⟨hd, rest, rfl, rfl⟩

/-- Only the empty text has no code points left where line ends are made one. -/
theorem unifyLineEnds_eq_nil {t : Text} (h : unifyLineEnds t = []) : t = [] := by
  cases t with
  | nil => rfl
  | cons c rest =>
    exfalso
    by_cases hc : c = '\r'
    · obtain ⟨tail, eq⟩ := exists_unifyLineEnds_return rest
      rw [hc, eq] at h
      simp at h
    · rw [unifyLineEnds_cons hc] at h
      simp at h

/-- A run of code points that end no line is the same with unified line ends. -/
theorem takeWhile_unifyLineEnds {p : CodePoint → Bool} (hr : p '\r' = false) (hn : p '\n' = false)
    (t : Text) : (unifyLineEnds t).takeWhile p = t.takeWhile p := by
  induction t using lineEnd_induction with
  | nil => rfl
  | plain c t hc ih =>
    rw [unifyLineEnds_cons hc, List.takeWhile_cons, List.takeWhile_cons, ih]
  | pair t _ => simp [unifyLineEnds_pair, hr, hn]
  | lone t h _ => simp [unifyLineEnds_lone h, hr, hn]

/-- Neither sort of line end stops what is dropped if neither is dropped. -/
theorem dropWhile_unifyLineEnds {p : CodePoint → Bool} (hr : p '\r' = false) (hn : p '\n' = false)
    (t : Text) : (unifyLineEnds t).dropWhile p = unifyLineEnds (t.dropWhile p) := by
  induction t using lineEnd_induction with
  | nil => rfl
  | plain c t hc ih =>
    rw [unifyLineEnds_cons hc, List.dropWhile_cons, List.dropWhile_cons, ih]
    split
    · rfl
    · exact (unifyLineEnds_cons hc t).symm
  | pair t _ => simp [unifyLineEnds_pair, hr, hn]
  | lone t h _ => simp [unifyLineEnds_lone h, hr, hn]

/-- A word without control characters begins a text with unified line ends if and only if it begins
the text. -/
theorem dropPrefix?_unifyLineEnds {word : Text} (h : (word.all fun c => 0x20 ≤ c.val) = true)
    (t : Text) : dropPrefix? word (unifyLineEnds t) = (dropPrefix? word t).map unifyLineEnds := by
  induction word generalizing t with
  | nil => rfl
  | cons b bs ih =>
    rw [List.all_cons, Bool.and_eq_true, decide_eq_true_iff] at h
    obtain ⟨printable, hbs⟩ := h
    have hr : b ≠ '\r' := by
      rintro rfl
      exact absurd printable (by decide)
    have hn : b ≠ '\n' := by
      rintro rfl
      exact absurd printable (by decide)
    cases t with
    | nil => rfl
    | cons c rest =>
      by_cases hc : c = '\r'
      · obtain ⟨tail, eq⟩ := exists_unifyLineEnds_return rest
        simp only [hc, eq, dropPrefix?, if_neg hr, if_neg hn, Option.map_none]
      · rw [unifyLineEnds_cons hc, dropPrefix?, dropPrefix?]
        split
        · exact ih hbs rest
        · rfl

end Text

namespace Json.Reader

open Text
open Grammar

/-! ## Two runs of the reader -/

/-- A fault with unified line ends in the text from the fault on. -/
def Fault.unified : Fault → Fault
  | .misplaced cause rest => .misplaced cause rest.unifyLineEnds
  | fault => fault

section Steps

variable {α β : Type}

/-- A result with unified line ends in the text that is left. -/
def unified : Except Fault (α × Text) → Except Fault (α × Text)
  | .ok (a, rest) => .ok (a, rest.unifyLineEnds)
  | .error fault => .error fault.unified

/-- With unified line ends a piece of the reader finds the same, and leaves the same but for line
ends. -/
def IgnoresLineEnds (step : Step α) : Prop :=
  ∀ t : Text, step t.unifyLineEnds = unified (step t)

/-- Places are made one before or after results are put into another form. -/
theorem unified_map (f : α → β) (result : Except Fault (α × Text)) :
    unified (result.map fun found => (f found.1, found.2)) =
      (unified result).map fun found => (f found.1, found.2) := by
  cases result with
  | error fault => rfl
  | ok found => rfl

/-- A step that ignores line ends does so whatever form its results are put into. -/
theorem IgnoresLineEnds.map {step : Step α} (h : IgnoresLineEnds step) (f : α → β) :
    IgnoresLineEnds fun t => (step t).map fun found => (f found.1, found.2) := by
  intro t
  dsimp only
  rw [h t, unified_map]

end Steps

/-! ## White space -/

/-- A blank is skipped. -/
theorem skipSpace_of_isSpace {c : CodePoint} (h : isSpace c = true) (t : Text) :
    skipSpace (c :: t) = skipSpace t := by
  rw [skipSpace, List.dropWhile_cons_of_pos h, ← skipSpace]

/-- Blanks are skipped alike with either sort of line end. -/
theorem skipSpace_unifyLineEnds (t : Text) :
    skipSpace t.unifyLineEnds = (skipSpace t).unifyLineEnds := by
  induction t using lineEnd_induction with
  | nil => rfl
  | plain c t hc ih =>
    rw [unifyLineEnds_cons hc]
    by_cases space : isSpace c = true
    · rw [skipSpace_of_isSpace space, skipSpace_of_isSpace space, ih]
    · rw [Bool.not_eq_true] at space
      rw [skipSpace_cons space, skipSpace_cons space, unifyLineEnds_cons hc]
  | pair t ih =>
    rw [unifyLineEnds_pair, skipSpace_of_isSpace rfl, skipSpace_of_isSpace rfl,
      skipSpace_of_isSpace rfl, ih]
  | lone t h ih =>
    rw [unifyLineEnds_lone h, skipSpace_of_isSpace rfl, skipSpace_of_isSpace rfl, ih]

/-- Behind white space no carriage return is next. -/
theorem ne_return_of_skipSpace {t rest : Text} {c : CodePoint} (h : skipSpace t = c :: rest) :
    c ≠ '\r' := by
  obtain ⟨space, -, -, no_space⟩ := exists_space t
  rintro rfl
  have := no_space _ (by rw [h, List.head?_cons]; rfl)
  exact absurd this (by decide)

/-! ## Strings -/

/-- The unit that four hexadecimal digits name, and the text behind them, which may not be empty. -/
def unicode? : Text → Option (CodePoint × Text)
  | a :: b :: d :: f :: g :: tail => (hexUnit? a b d f).map fun unit => (unit, g :: tail)
  | _ => none

/-- A unit is read from four hexadecimal digits that do not end the text. -/
theorem unicode?_eq_some {t rest : Text} {unit : CodePoint} :
    unicode? t = some (unit, rest) ↔
      ∃ a b d f, t = a :: b :: d :: f :: rest ∧ rest ≠ [] ∧ hexUnit? a b d f = some unit := by
  constructor
  · intro h
    unfold unicode? at h
    split at h
    · next a b d f g tail =>
      rw [Option.map_eq_some_iff] at h
      obtain ⟨u, digits, same⟩ := h
      cases same
      exact ⟨a, b, d, f, rfl, List.cons_ne_nil g tail, digits⟩
    · cases h
  · rintro ⟨a, b, d, f, rfl, more, digits⟩
    obtain ⟨g, tail, rfl⟩ := List.exists_cons_of_ne_nil more
    simp [unicode?, digits]

/-- What names a unit ends no line. -/
theorem ne_of_hexUnit? {a b d f unit : CodePoint} (h : hexUnit? a b d f = some unit) :
    ∀ c ∈ ([a, b, d, f] : Text), c ≠ '\r' ∧ c ≠ '\n' := by
  have digit (c : CodePoint) (n : Nat) (hc : c.hexValue? = some n) : c ≠ '\r' ∧ c ≠ '\n' := by
    constructor
    · rintro rfl
      cases hc
    · rintro rfl
      cases hc
  unfold hexUnit? at h
  split at h
  · next ha hb hd hf =>
    intro c mem
    simp only [List.mem_cons, List.not_mem_nil, or_false] at mem
    rcases mem with rfl | rfl | rfl | rfl
    · exact digit _ _ ha
    · exact digit _ _ hb
    · exact digit _ _ hd
    · exact digit _ _ hf
  · cases h

/-- The digits of a unit are no line ends. -/
theorem unicode?_unifyLineEnds (t : Text) :
    unicode? t.unifyLineEnds = (unicode? t).map fun found => (found.1, found.2.unifyLineEnds) := by
  apply Option.ext
  rintro ⟨unit, rest⟩
  rw [Option.map_eq_some_iff, unicode?_eq_some]
  constructor
  · rintro ⟨a, b, d, f, eq, more, digits⟩
    have plain := ne_of_hexUnit? digits
    obtain ⟨-, t₁, rfl, eq₁⟩ := unifyLineEnds_eq_cons (plain a (by simp)).2 eq
    obtain ⟨-, t₂, rfl, eq₂⟩ := unifyLineEnds_eq_cons (plain b (by simp)).2 eq₁.symm
    obtain ⟨-, t₃, rfl, eq₃⟩ := unifyLineEnds_eq_cons (plain d (by simp)).2 eq₂.symm
    obtain ⟨-, t₄, rfl, rfl⟩ := unifyLineEnds_eq_cons (plain f (by simp)).2 eq₃.symm
    refine ⟨(unit, t₄), unicode?_eq_some.mpr ⟨a, b, d, f, rfl, ?_, digits⟩, rfl⟩
    rintro rfl
    exact more rfl
  · rintro ⟨⟨u, behind⟩, found, same⟩
    cases same
    obtain ⟨a, b, d, f, rfl, more, digits⟩ := unicode?_eq_some.mp found
    have plain := ne_of_hexUnit? digits
    refine ⟨a, b, d, f, ?_, fun none_left => more (unifyLineEnds_eq_nil none_left), digits⟩
    rw [unifyLineEnds_cons (plain a (by simp)).1, unifyLineEnds_cons (plain b (by simp)).1,
      unifyLineEnds_cons (plain d (by simp)).1, unifyLineEnds_cons (plain f (by simp)).1]

/-- A unit behind a backslash is a piece. -/
theorem pieces_unicode (start : Text) (found : List Piece) (behind : Text) :
    pieces start found ('\\' :: 'u' :: behind) =
      match unicode? behind with
      | some (unit, rest) => pieces start (.escaped unit :: found) rest
      | none => .error (.misplaced .unicodeEscape ('u' :: behind)) := by
  have no_quote : CodePoint.ofChar '\\' ≠ CodePoint.ofChar '"' := by decide
  rw [pieces.eq_def]
  simp only [if_neg no_quote, if_true]
  fun_cases unicode? behind with
  | case1 a b d f g tail =>
    dsimp only
    cases hexUnit? a b d f <;> rfl
  | case2 _ short =>
    split
    · next a b d f g tail => exact absurd rfl (short a b d f g tail)
    · rfl

/-- A letter behind a backslash is a piece if the table has it. -/
theorem pieces_short (start : Text) (found : List Piece) {letter : CodePoint}
    (h : letter ≠ CodePoint.ofChar 'u') (behind : Text) :
    pieces start found ('\\' :: letter :: behind) =
      match shortEscape? letter with
      | some plain => pieces start (.raw plain :: found) behind
      | none => .error (.misplaced .escape ('\\' :: letter :: behind)) := by
  rw [pieces.eq_def]
  have no_quote : CodePoint.ofChar '\\' ≠ CodePoint.ofChar '"' := by decide
  cases known : shortEscape? letter with
  | some plain => simp only [if_neg no_quote, if_true, if_neg h, known]
  | none => simp only [if_neg no_quote, if_true, if_neg h, known]

/-- A control character is no piece. -/
theorem pieces_control (start : Text) (found : List Piece) {c : CodePoint} (h : c.val < 0x20)
    (t : Text) : pieces start found (c :: t) = .error (.misplaced .control (c :: t)) := by
  have other (mark : CodePoint) (printable : 0x20 ≤ mark.val) : c ≠ mark := by
    rintro rfl
    omega
  have no_quote : c ≠ CodePoint.ofChar '"' := other _ (by decide)
  have no_escape : c ≠ CodePoint.ofChar '\\' := other _ (by decide)
  rw [pieces.eq_def]
  simp only [if_neg no_quote, if_neg no_escape, if_pos h]

/-- Any other code point is a piece by itself. -/
theorem pieces_plain (start : Text) (found : List Piece) {c : CodePoint} (h : 0x20 ≤ c.val)
    (no_quote : c ≠ CodePoint.ofChar '"') (no_escape : c ≠ CodePoint.ofChar '\\') (t : Text) :
    pieces start found (c :: t) = pieces start (.raw c :: found) t := by
  rw [pieces.eq_def]
  simp only [if_neg no_quote, if_neg no_escape, if_neg (Nat.not_lt.mpr h)]

/-- Behind a unit the text is shorter. -/
theorem length_lt_of_unicode? {t rest : Text} {unit : CodePoint}
    (h : unicode? t = some (unit, rest)) : rest.length < t.length := by
  obtain ⟨a, b, d, f, rfl, -⟩ := unicode?_eq_some.mp h
  simp only [List.length_cons]
  omega

/-- An escape is read alike in both texts if what is behind it is. -/
theorem pieces_escape_unifyLineEnds (start : Text) (found : List Piece) (rest : Text)
    (ih : ∀ (found : List Piece) (t : Text), t.length < rest.length →
      pieces start.unifyLineEnds found t.unifyLineEnds = unified (pieces start found t)) :
    pieces start.unifyLineEnds found ('\\' :: rest.unifyLineEnds) =
      unified (pieces start found ('\\' :: rest)) := by
  cases rest with
  | nil => rfl
  | cons letter behind =>
    by_cases is_unicode : letter = 'u'
    · rw [is_unicode, unifyLineEnds_cons (by decide), pieces_unicode, pieces_unicode,
        unicode?_unifyLineEnds]
      cases named : unicode? behind with
      | none =>
        simp only [Option.map_none, unified, Fault.unified]
        rw [unifyLineEnds_cons (by decide)]
      | some pair =>
        obtain ⟨unit, tail⟩ := pair
        have shorter := length_lt_of_unicode? named
        apply ih
        simp only [List.length_cons]
        omega
    · by_cases is_return : letter = '\r'
      · obtain ⟨more, eq⟩ := exists_unifyLineEnds_return behind
        rw [is_return, eq, pieces_short _ _ (by decide), pieces_short _ _ (by decide)]
        have known (c : CodePoint) (h : c = '\r' ∨ c = '\n') : shortEscape? c = none := by
          rcases h with rfl | rfl <;> rfl
        rw [known _ (Or.inl rfl), known _ (Or.inr rfl)]
        simp only [unified, Fault.unified]
        rw [unifyLineEnds_cons (by decide), eq]
      · rw [unifyLineEnds_cons is_return, pieces_short _ _ is_unicode, pieces_short _ _ is_unicode]
        cases shortEscape? letter with
        | none =>
          simp only [unified, Fault.unified]
          rw [unifyLineEnds_cons (by decide), unifyLineEnds_cons is_return]
        | some plain => exact ih _ behind (by simp)

/-- A string is read in the same pieces with unified line ends. -/
theorem pieces_unifyLineEnds (start : Text) (found : List Piece) (t : Text) :
    pieces start.unifyLineEnds found t.unifyLineEnds = unified (pieces start found t) := by
  induction n : t.length using Nat.strong_induction_on generalizing found t with
  | h n ih =>
    subst n
    cases t with
    | nil => rfl
    | cons c rest =>
      by_cases is_return : c = '\r'
      · obtain ⟨more, eq⟩ := exists_unifyLineEnds_return rest
        rw [is_return, eq, pieces_control _ _ (by decide), pieces_control _ _ (by decide), ← eq]
        rfl
      · rw [unifyLineEnds_cons is_return]
        by_cases control : c.val < 0x20
        · rw [pieces_control _ _ control, pieces_control _ _ control, ← unifyLineEnds_cons is_return]
          rfl
        · by_cases is_quote : c = '"'
          · rw [is_quote, pieces_quote, pieces_quote]
            rfl
          · by_cases is_escape : c = '\\'
            · rw [is_escape]
              apply pieces_escape_unifyLineEnds
              intro found t shorter
              exact ih t.length (by rw [List.length_cons]; omega) found t rfl
            · rw [pieces_plain _ _ (Nat.not_lt.mp control) is_quote is_escape,
                pieces_plain _ _ (Nat.not_lt.mp control) is_quote is_escape]
              exact ih rest.length (by simp) _ rest rfl

/-- A text in quotation marks is read alike with either sort of line end. -/
theorem string_unifyLineEnds (start t : Text) :
    string start.unifyLineEnds t.unifyLineEnds = unified (string start t) := by
  rw [string, string, pieces_unifyLineEnds]
  cases pieces start [] t with
  | error fault => rfl
  | ok found => rfl

/-! ## Words and numerals -/

/-- A word of no control characters is found alike with either sort of line end. -/
theorem word?_unifyLineEnds {α : Type} {table : List (Text × α)}
    (h : ∀ entry ∈ table, (entry.1.all fun c => 0x20 ≤ c.val) = true) (t : Text) :
    word? table t.unifyLineEnds =
      (word? table t).map fun found => (found.1, found.2.unifyLineEnds) := by
  unfold word?
  induction table with
  | nil => rfl
  | cons entry table ih =>
    rw [List.findSome?_cons, List.findSome?_cons,
      dropPrefix?_unifyLineEnds (h entry List.mem_cons_self)]
    cases dropPrefix? entry.1 t with
    | none => exact ih fun e mem => h e (List.mem_cons_of_mem entry mem)
    | some rest => rfl

/-- Digits are taken and dropped alike with either sort of line end. -/
theorem digits_unifyLineEnds (t : Text) :
    t.unifyLineEnds.takeWhile CodePoint.isDigit = t.takeWhile CodePoint.isDigit ∧
      t.unifyLineEnds.dropWhile CodePoint.isDigit =
        unifyLineEnds (t.dropWhile CodePoint.isDigit) :=
  ⟨takeWhile_unifyLineEnds rfl rfl t, dropWhile_unifyLineEnds rfl rfl t⟩

/-- The code point that a text with unified line ends begins with, unless it is a line feed. -/
theorem head?_unifyLineEnds {c : CodePoint} (hr : c ≠ '\r') (hn : c ≠ '\n') (t : Text) :
    t.unifyLineEnds.head? = some c ↔ t.head? = some c := by
  constructor
  · intro h
    obtain ⟨more, eq⟩ := List.head?_eq_some_iff.mp h
    obtain ⟨-, rest, rfl, -⟩ := unifyLineEnds_eq_cons hn eq
    rfl
  · intro h
    obtain ⟨rest, rfl⟩ := List.head?_eq_some_iff.mp h
    rw [unifyLineEnds_cons hr, List.head?_cons]

/-- A whole number is read alike with either sort of line end. -/
theorem whole?_unifyLineEnds (t : Text) :
    whole? t.unifyLineEnds = (whole? t).map fun found => (found.1, found.2.unifyLineEnds) := by
  cases t with
  | nil => rfl
  | cons c rest =>
    by_cases is_return : c = '\r'
    · obtain ⟨more, eq⟩ := exists_unifyLineEnds_return rest
      rw [is_return, eq]
      rfl
    · have digits := digits_unifyLineEnds (c :: rest)
      rw [unifyLineEnds_cons is_return] at digits ⊢
      rw [whole?, whole?, digits.1, digits.2]
      split
      · rfl
      · split
        · rfl
        · rfl

/-- Behind a point the digits are a fraction if there are any. -/
theorem fraction_of_point (rest : Text) :
    fraction ('.' :: rest) =
      if rest.takeWhile CodePoint.isDigit = [] then ([], ('.' : CodePoint) :: rest)
      else (rest.takeWhile CodePoint.isDigit, rest.dropWhile CodePoint.isDigit) := by
  cases rest with
  | nil => rfl
  | cons d more =>
    rw [fraction]
    by_cases digit : d.isDigit = true
    · rw [if_pos ⟨rfl, digit⟩, if_neg]
      rw [List.takeWhile_cons_of_pos digit]
      exact List.cons_ne_nil _ _
    · rw [if_neg fun h => digit h.2, if_pos (List.takeWhile_cons_of_neg digit)]

/-- Without a point there is no fraction. -/
theorem fraction_of_no_point {t : Text} (h : t.head? ≠ some (CodePoint.ofChar '.')) :
    fraction t = ([], t) := by
  match t, h with
  | [], _ => rfl
  | [_], _ => rfl
  | c :: d :: more, h =>
    have other : c ≠ '.' := fun eq => h (congrArg some eq)
    rw [fraction, if_neg fun led => other led.1]

/-- A fraction is read alike with either sort of line end. -/
theorem fraction_unifyLineEnds (t : Text) :
    fraction t.unifyLineEnds = ((fraction t).1, (fraction t).2.unifyLineEnds) := by
  have point := head?_unifyLineEnds (c := '.') (by decide) (by decide) t
  by_cases h : t.head? = some (CodePoint.ofChar '.')
  · obtain ⟨rest, rfl⟩ := List.head?_eq_some_iff.mp h
    rw [unifyLineEnds_cons (by decide), fraction_of_point, fraction_of_point,
      (digits_unifyLineEnds rest).1, (digits_unifyLineEnds rest).2]
    split
    · rw [unifyLineEnds_cons (by decide)]
    · rfl
  · rw [fraction_of_no_point h, fraction_of_no_point (mt point.mp h)]

/-- The sign of an exponent is read alike with either sort of line end. -/
theorem signed_unifyLineEnds (t : Text) :
    Text.signed t.unifyLineEnds = ((Text.signed t).1, (Text.signed t).2.unifyLineEnds) := by
  cases t with
  | nil => rfl
  | cons c rest =>
    by_cases is_return : c = '\r'
    · obtain ⟨more, eq⟩ := exists_unifyLineEnds_return rest
      have signed_return : Text.signed ('\r' :: rest) = (false, ('\r' : CodePoint) :: rest) := rfl
      rw [is_return, signed_return, eq]
      rfl
    · rw [unifyLineEnds_cons is_return, Text.signed, Text.signed]
      split
      · rfl
      · split
        · rfl
        · rw [unifyLineEnds_cons is_return]

/-- An exponent is read alike with either sort of line end. -/
theorem exponent_unifyLineEnds (t : Text) :
    exponent t.unifyLineEnds = ((exponent t).1, (exponent t).2.unifyLineEnds) := by
  cases t with
  | nil => rfl
  | cons c rest =>
    by_cases is_return : c = '\r'
    · obtain ⟨more, eq⟩ := exists_unifyLineEnds_return rest
      have exponent_return : exponent ('\r' :: rest) = (none, ('\r' : CodePoint) :: rest) := rfl
      rw [is_return, exponent_return, eq]
      rfl
    · rw [unifyLineEnds_cons is_return, exponent, exponent, signed_unifyLineEnds]
      split
      · dsimp only
        rw [(digits_unifyLineEnds _).1, (digits_unifyLineEnds _).2]
        split
        · rw [unifyLineEnds_cons is_return]
        · rfl
      · rw [unifyLineEnds_cons is_return]

/-- A minus is read alike with either sort of line end. -/
theorem cutMinus_unifyLineEnds (t : Text) :
    cutMinus t.unifyLineEnds = ((cutMinus t).1, (cutMinus t).2.unifyLineEnds) := by
  rw [cutMinus, cutMinus, dropPrefix?_unifyLineEnds rfl]
  cases dropPrefix? "-" t with
  | none => rfl
  | some rest => rfl

/-- A numeral is read alike with either sort of line end. -/
theorem numeral?_unifyLineEnds (t : Text) :
    numeral? t.unifyLineEnds = (numeral? t).map fun found => (found.1, found.2.unifyLineEnds) := by
  rw [numeral?_eq, numeral?_eq, cutMinus_unifyLineEnds]
  dsimp only
  rw [whole?_unifyLineEnds]
  cases whole? (cutMinus t).2 with
  | none => rfl
  | some found =>
    dsimp only [Option.map_some]
    rw [fraction_unifyLineEnds]
    dsimp only
    rw [exponent_unifyLineEnds]

/-- Values that hold no others are read alike with either sort of line end. -/
theorem ignoresLineEnds_scalar : IgnoresLineEnds (scalar strict) := by
  intro t
  have plain_words : ∀ entry ∈ words, (entry.1.all fun c => 0x20 ≤ c.val) = true := by
    simp only [words, List.forall_mem_cons]
    exact ⟨rfl, rfl, rfl, List.forall_mem_nil _⟩
  have plain_constants : ∀ entry ∈ constants, (entry.1.all fun c => 0x20 ≤ c.val) = true := by
    simp only [constants, List.forall_mem_cons]
    exact ⟨rfl, rfl, rfl, List.forall_mem_nil _⟩
  rw [scalar, scalar, word?_unifyLineEnds plain_words, word?_unifyLineEnds plain_constants,
    numeral?_unifyLineEnds]
  cases word? words t with
  | some found => rfl
  | none =>
    cases word? constants t with
    | some found => rfl
    | none =>
      cases numeral? t with
      | none => rfl
      | some found =>
        dsimp only [Option.map_none, Option.map_some]
        rw [value_eq]
        split
        · rfl
        · rfl

/-! ## Entries -/

section Entries

variable {α : Type} {entry : Step α} {grammar : Text → α → Prop} {close : CodePoint}
  {missing : Cause}

/-- What is read takes at least one code point off the text. -/
theorem length_lt_of_sound (sound : Sound entry grammar) (opens : Opens grammar) {t rest : Text}
    {a : α} (h : entry t = .ok (a, rest)) : rest.length < t.length := by
  obtain ⟨body, is_entry, rfl⟩ := sound h
  obtain ⟨c, more, rfl, -⟩ := opens is_entry
  simp only [List.length_append, List.length_cons]
  omega

/-- Where an entry and a comma have been read, the clock is long enough for what follows. -/
theorem enough_of_comma {t rest behind clock : Text} {tick c : CodePoint}
    (enough : max 1 t.length ≤ (tick :: clock).length) (shorter : rest.length < t.length)
    (next : skipSpace rest = c :: behind) : max 1 (skipSpace behind).length ≤ clock.length := by
  have hrest := length_skipSpace_le rest
  have hbehind := length_skipSpace_le behind
  rw [next] at hrest
  simp only [List.length_cons] at enough hrest
  omega

/-- Entries are read alike in both texts. The two runs take the same number of steps, and each has a
clock of its own that is long enough. -/
theorem elements_unifyLineEnds (sound : Sound entry grammar) (opens : Opens grammar)
    (ignores : IgnoresLineEnds entry) (clock clock' : Text) (found : List α) (t : Text)
    (enough : max 1 t.length ≤ clock.length)
    (enough' : max 1 t.unifyLineEnds.length ≤ clock'.length) :
    elements entry close missing clock' found t.unifyLineEnds =
      unified (elements entry close missing clock found t) := by
  -- The clocks tick with the two texts, of which the one may be shorter; both are long enough to the end.
  induction clock generalizing clock' found t with
  | nil =>
    simp only [List.length_nil] at enough
    omega
  | cons tick clock ih =>
    obtain ⟨tick', clock', rfl⟩ := List.exists_cons_of_length_pos (l := clock') (by omega)
    rw [elements, elements, ignores t]
    cases read : entry t with
    | error fault => rfl
    | ok pair =>
      obtain ⟨a, rest⟩ := pair
      have read' : entry t.unifyLineEnds = .ok (a, rest.unifyLineEnds) := by
        rw [ignores t, read]
        rfl
      have shorter := length_lt_of_sound sound opens read
      have shorter' := length_lt_of_sound sound opens read'
      simp only [unified]
      rw [skipSpace_unifyLineEnds]
      cases next : skipSpace rest with
      | nil => rfl
      | cons c behind =>
        have no_return := ne_return_of_skipSpace next
        have next' : skipSpace rest.unifyLineEnds = c :: unifyLineEnds behind := by
          rw [skipSpace_unifyLineEnds, next, unifyLineEnds_cons no_return]
        rw [unifyLineEnds_cons no_return]
        dsimp only
        split
        · rfl
        · split
          · have left' := enough_of_comma enough' shorter' next'
            rw [skipSpace_unifyLineEnds] at left' ⊢
            exact ih clock' (a :: found) _ (enough_of_comma enough shorter next) left'
          · rw [← unifyLineEnds_cons no_return]
            rfl

/-- Entries one after another are read alike with either sort of line end if each of them is. -/
theorem ignoresLineEnds_sequence (sound : Sound entry grammar) (opens : Opens grammar)
    (ignores : IgnoresLineEnds entry) : IgnoresLineEnds (sequence entry close missing) := by
  intro t
  rw [Grammar.sequence.eq_def, Grammar.sequence.eq_def, skipSpace_unifyLineEnds]
  cases next : skipSpace t with
  | nil => rfl
  | cons c rest =>
    have no_return := ne_return_of_skipSpace next
    rw [unifyLineEnds_cons no_return]
    dsimp only
    split
    · rfl
    · rw [← unifyLineEnds_cons no_return]
      apply elements_unifyLineEnds sound opens ignores
      · simp
      · rw [unifyLineEnds_cons no_return]
        simp

end Entries

/-! ## Values -/

/-- A member is read alike with either sort of line end if its value is. -/
theorem ignoresLineEnds_member {item : Step Json} (ignores : IgnoresLineEnds item) :
    IgnoresLineEnds (member item) := by
  intro t
  cases t with
  | nil => rfl
  | cons c rest =>
    by_cases is_quote : c = '"'
    · have no_return : c ≠ '\r' := by
        rw [is_quote]
        decide
      have read := string_unifyLineEnds (c :: rest) rest
      -- The quotation mark is in front in both texts, and what follows is read alike.
      rw [unifyLineEnds_cons no_return] at read ⊢
      rw [member, member, if_pos is_quote, if_pos is_quote, read]
      cases string (c :: rest) rest with
      | error fault => rfl
      | ok pair =>
        obtain ⟨key, behind⟩ := pair
        simp only [unified]
        rw [skipSpace_unifyLineEnds]
        cases next : skipSpace behind with
        | nil => rfl
        | cons mark more =>
          have plain := ne_return_of_skipSpace next
          rw [unifyLineEnds_cons plain]
          dsimp only
          split
          · rw [skipSpace_unifyLineEnds, ignores]
            exact (unified_map (fun v => (key, v)) _).symm
          · rw [← unifyLineEnds_cons plain]
            rfl
    · rw [member, if_neg is_quote]
      by_cases is_return : c = '\r'
      · obtain ⟨more, eq⟩ := exists_unifyLineEnds_return rest
        rw [is_return, eq, member, if_neg (by decide), ← eq]
        rfl
      · rw [unifyLineEnds_cons is_return, member, if_neg is_quote, ← unifyLineEnds_cons is_return]
        rfl

/-- An array is read alike with either sort of line end if its items are. -/
theorem ignoresLineEnds_array {item : Step Json} {value : Text → Json → Prop}
    (sound : Sound item value) (opens : Opens value) (ignores : IgnoresLineEnds item) :
    IgnoresLineEnds (array item) := by
  intro t
  rw [array_eq, array_eq]
  exact (ignoresLineEnds_sequence sound opens ignores).map Json.arr t

/-- An object is read alike with either sort of line end if its values are. -/
theorem ignoresLineEnds_object {item : Step Json} {value : Text → Json → Prop}
    (sound : Sound item value) (ignores : IgnoresLineEnds item) :
    IgnoresLineEnds (object item) := by
  intro t
  rw [object_eq, object_eq]
  have read : IgnoresLineEnds (sequence (member item) '}' .propertyName) :=
    ignoresLineEnds_sequence (sound_member sound) opens_member (ignoresLineEnds_member ignores)
  exact read.map (fun pairs => Json.obj (Members.ofPairs pairs)) t

/-- A value is read alike with either sort of line end if what it may hold is. -/
theorem ignoresLineEnds_valueWith {reader : Option (Step Json)}
    (inside : ∀ item, reader = some item →
      IgnoresLineEnds (array item) ∧ IgnoresLineEnds (object item)) :
    IgnoresLineEnds (valueWith strict reader) := by
  intro t
  cases t with
  | nil => cases reader <;> rfl
  | cons c rest =>
    have outside := ignoresLineEnds_scalar (c :: rest)
    by_cases is_return : c = '\r'
    · obtain ⟨more, eq⟩ := exists_unifyLineEnds_return rest
      rw [is_return] at outside ⊢
      rw [eq] at outside ⊢
      rw [valueWith_scalar (by decide) (by decide) (by decide),
        valueWith_scalar (by decide) (by decide) (by decide), outside]
    · have read := string_unifyLineEnds (c :: rest) rest
      rw [unifyLineEnds_cons is_return] at outside read ⊢
      rw [valueWith_cons, valueWith_cons]
      split
      · rw [read]
        exact (unified_map Json.str _).symm
      · cases reader with
        | none =>
          split
          · rfl
          · split
            · rfl
            · exact outside
        | some item =>
          obtain ⟨ignores_array, ignores_object⟩ := inside item rfl
          split
          · exact ignores_array rest
          · split
            · exact ignores_object rest
            · exact outside

/-- Values of any number of levels are read alike with either sort of line end. -/
theorem ignoresLineEnds_value (levels : Nat) : IgnoresLineEnds (value strict levels) := by
  induction levels with
  | zero => exact ignoresLineEnds_valueWith nofun
  | succ levels ih =>
    apply ignoresLineEnds_valueWith
    rintro _ ⟨⟩
    have sound := sound_value levels
    exact ⟨ignoresLineEnds_array sound (opens_value _ _) ih, ignoresLineEnds_object sound ih⟩

/-- The strict reader finds the same in a text with unified line ends, or the same fault with unified
line ends in the text that it holds. -/
theorem strictDocument_unifyLineEnds (t : Text) :
    strictDocument t.unifyLineEnds = (strictDocument t).mapError Fault.unified := by
  have mark := head?_unifyLineEnds (c := Text.byteOrderMark) (by decide) (by decide) t
  rw [strictDocument, strictDocument]
  by_cases h : t.head? = some Text.byteOrderMark
  · rw [if_pos h, if_pos (mark.mpr h)]
    rfl
  · rw [if_neg h, if_neg (mt mark.mp h), document, document, skipSpace_unifyLineEnds,
      ignoresLineEnds_value]
    cases value strict strict.nestingLimit (skipSpace t) with
    | error fault => rfl
    | ok pair =>
      obtain ⟨v, rest⟩ := pair
      simp only [unified]
      rw [skipSpace_unifyLineEnds]
      cases next : skipSpace rest with
      | nil => rfl
      | cons c behind =>
        have no_return := ne_return_of_skipSpace next
        rw [unifyLineEnds_cons no_return, Except.mapError, Fault.unified,
          unifyLineEnds_cons no_return]

end Json.Reader

end Rulebook
