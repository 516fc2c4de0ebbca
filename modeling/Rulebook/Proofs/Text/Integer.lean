import Rulebook.Text.Integer
import Mathlib

/-!
# The integers that settings denote

Which texts denote an integer where a setting asks for one, said without a reader: white space, a sign or
none, decimal digits of any script with at most one underscore between two of them, white space, and not
too many digits (`Denotes`). A setting reads as an integer exactly if it denotes it.

No digit is white space, a sign or an underscore, so the parts of such a text are told apart by their code
points alone.
-/

set_option autoImplicit false

namespace Rulebook.Text

/-! ## Digits -/

/-- Digits with at most one underscore between two of them, and what they stand for. -/
inductive Digits : Text → List Nat → Prop where
  | single {c : CodePoint} {d : Nat} (h : c.decimalValue? = some d) : Digits [c] [d]
  | next {c : CodePoint} {t : Text} {d : Nat} {ds : List Nat} (h : c.decimalValue? = some d)
      (rest : Digits t ds) : Digits (c :: t) (d :: ds)
  | grouped {c : CodePoint} {t : Text} {d : Nat} {ds : List Nat} (h : c.decimalValue? = some d)
      (rest : Digits t ds) : Digits (c :: ('_' : CodePoint) :: t) (d :: ds)

/-- A digit of any script stands behind the zero of its script. -/
theorem exists_zero_of_decimalValue? {c : CodePoint} {d : Nat} (h : c.decimalValue? = some d) :
    ∃ first ∈ CodePoint.decimalZeros, ∃ k < 10, c = CodePoint.ofNat (first + k) := by
  obtain ⟨first, found, -⟩ := Option.map_eq_some_iff.mp h
  have near := List.find?_some found
  simp only [Bool.and_eq_true, decide_eq_true_iff] at near
  refine ⟨first, List.mem_of_find?_eq_some found, c.val - first, by omega, ?_⟩
  apply Fin.ext
  have : first + (c.val - first) = c.val := by omega
  rw [this]
  exact (Nat.mod_eq_of_lt c.isLt).symm

/-- A digit is no white space. -/
theorem isWhiteSpace_of_decimalValue? {c : CodePoint} {d : Nat} (h : c.decimalValue? = some d) :
    c.isWhiteSpace = false := by
  have table : ∀ first ∈ CodePoint.decimalZeros, ∀ k < 10,
      (CodePoint.ofNat (first + k)).isWhiteSpace = false := by decide +kernel
  obtain ⟨first, listed, k, small, rfl⟩ := exists_zero_of_decimalValue? h
  exact table first listed k small

/-- A run of digits begins with one. -/
theorem Digits.head {t : Text} {ds : List Nat} (h : Digits t ds) :
    ∃ c more d, t = c :: more ∧ c.decimalValue? = some d := by
  cases h with
  | single h | next h | grouped h => exact ⟨_, _, _, rfl, h⟩

/-- A run of digits ends with one. -/
theorem Digits.last {t : Text} {ds : List Nat} (h : Digits t ds) :
    ∃ before c d, t = before ++ [c] ∧ c.decimalValue? = some d := by
  induction h with
  | single h => exact ⟨[], _, _, rfl, h⟩
  | next _ _ ih =>
    obtain ⟨before, c, d, rfl, h⟩ := ih
    exact ⟨_ :: before, c, d, rfl, h⟩
  | grouped _ _ ih =>
    obtain ⟨before, c, d, rfl, h⟩ := ih
    exact ⟨_ :: _ :: before, c, d, rfl, h⟩

/-- A run of digits is read. -/
theorem digitRun?_of_digits {t : Text} {ds : List Nat} (h : Digits t ds) :
    digitRun? CodePoint.decimalValue? t = some ds := by
  induction h with
  | single h => simp [digitRun?, h]
  | @next c t d ds h rest ih =>
    obtain ⟨e, more, _, rfl, digit⟩ := rest.head
    have no_underscore : e ≠ '_' := by
      rintro rfl
      cases digit
    simp only [digitRun?, h, if_neg no_underscore, ih, Option.map_some]
  | @grouped c t d ds h rest ih => simp only [digitRun?, h, if_true, ih, Option.map_some]

/-- What is read as a run of digits is one. -/
theorem digits_of_digitRun? {t : Text} {ds : List Nat}
    (h : digitRun? CodePoint.decimalValue? t = some ds) : Digits t ds := by
  fun_induction digitRun? CodePoint.decimalValue? t generalizing ds with
  | case1 => cases h
  | case2 c =>
    obtain ⟨d, digit, rfl⟩ := Option.map_eq_some_iff.mp h
    exact .single digit
  | case3 => cases h
  | case4 c d rest n digit remaining ih =>
    rename_i ih'
    obtain ⟨ns, read, rfl⟩ := Option.map_eq_some_iff.mp h
    unfold remaining at read
    split at read
    · next underscore =>
      subst underscore
      exact .grouped digit (ih read)
    · exact .next digit (ih' read)

/-! ## White space around -/

/-- What is trimmed off a text is of the sort that is trimmed. -/
theorem exists_trim (p : CodePoint → Bool) (t : Text) :
    ∃ before after, t = before ++ (t.trim p ++ after) ∧ (∀ c ∈ before, p c = true) ∧
      ∀ c ∈ after, p c = true := by
  let rest := t.dropWhile p
  refine ⟨t.takeWhile p, (rest.reverse.takeWhile p).reverse, ?_, ?_, ?_⟩
  · rw [trim, ← List.reverse_append, List.takeWhile_append_dropWhile, List.reverse_reverse,
      List.takeWhile_append_dropWhile]
  · exact fun c mem => List.mem_takeWhile_imp mem
  · exact fun c mem => List.mem_takeWhile_imp (List.mem_reverse.mp mem)

/-- Blanks in front of a text that does not begin with any are dropped. -/
theorem dropWhile_append {p : CodePoint → Bool} {before t : Text} (space : ∀ c ∈ before, p c = true)
    (first : ∀ c ∈ t.head?, p c = false) : (before ++ t).dropWhile p = t := by
  rw [List.dropWhile_append_of_pos space]
  cases t with
  | nil => rfl
  | cons c rest => exact List.dropWhile_cons_of_neg (by simp [first c rfl])

/-- What stands between white space is what is left of a text, if no white space is at its ends. -/
theorem trim_append {p : CodePoint → Bool} {before t after : Text}
    (space : ∀ c ∈ before, p c = true) (space' : ∀ c ∈ after, p c = true) (nonempty : t ≠ [])
    (first : ∀ c ∈ t.head?, p c = false) (last : ∀ c ∈ t.getLast?, p c = false) :
    (before ++ (t ++ after)).trim p = t := by
  have front : (before ++ (t ++ after)).dropWhile p = t ++ after := by
    apply dropWhile_append space
    rwa [List.head?_append_of_ne_nil _ nonempty]
  have back : (after.reverse ++ t.reverse).dropWhile p = t.reverse := by
    apply dropWhile_append
    · exact fun c mem => space' c (List.mem_reverse.mp mem)
    · rwa [List.head?_reverse]
  rw [trim, front, List.reverse_append, back, List.reverse_reverse]

/-! ## Integers -/

/-- The signs, each with whether it makes an integer negative. -/
def signs : List (Text × Bool) := [([], false), (['+'], false), (['-'], true)]

/-- A text denotes an integer: it is a sign or none and at most 4300 digits, with white space around. -/
inductive Denotes : Text → Int → Prop where
  | numeral {before sign digits after : Text} {negative : Bool} {ds : List Nat}
      (space : ∀ c ∈ before, c.isWhiteSpace = true) (is_sign : (sign, negative) ∈ signs)
      (h : Digits digits ds) (short : ds.length ≤ numeralLimit)
      (space' : ∀ c ∈ after, c.isWhiteSpace = true) :
      Denotes (before ++ (sign ++ digits ++ after)) (Numeral.value ⟨negative, ds⟩)

/-- What is read as a sign is one. -/
theorem exists_sign (t : Text) : ∃ sign, (sign, (signed t).1) ∈ signs ∧ t = sign ++ (signed t).2 := by
  cases t with
  | nil => exact ⟨[], by simp [signs, signed], rfl⟩
  | cons c rest =>
    rw [signed]
    split_ifs with minus plus
    · exact ⟨['-'], by simp [signs], by rw [minus]; rfl⟩
    · exact ⟨['+'], by simp [signs], by rw [plus]; rfl⟩
    · exact ⟨[], by simp [signs], rfl⟩

/-- A sign is read in front of digits. -/
theorem signed_append {sign digits : Text} {negative : Bool} {ds : List Nat}
    (is_sign : (sign, negative) ∈ signs) (h : Digits digits ds) :
    signed (sign ++ digits) = (negative, digits) := by
  obtain ⟨c, more, d, rfl, digit⟩ := h.head
  have no_minus : c ≠ '-' := by
    rintro rfl
    cases digit
  have no_plus : c ≠ '+' := by
    rintro rfl
    cases digit
  simp only [signs, List.mem_cons, Prod.mk.injEq, List.not_mem_nil, or_false] at is_sign
  rcases is_sign with ⟨rfl, rfl⟩ | ⟨rfl, rfl⟩ | ⟨rfl, rfl⟩
  · rw [List.nil_append, signed, if_neg no_minus, if_neg no_plus]
  · rfl
  · rfl

/-- A sign is no white space. -/
theorem isWhiteSpace_head {sign digits : Text} {negative : Bool} {ds : List Nat}
    (is_sign : (sign, negative) ∈ signs) (h : Digits digits ds) :
    ∀ c ∈ (sign ++ digits).head?, c.isWhiteSpace = false := by
  obtain ⟨d, more, _, rfl, digit⟩ := h.head
  simp only [signs, List.mem_cons, Prod.mk.injEq, List.not_mem_nil, or_false] at is_sign
  rcases is_sign with ⟨rfl, -⟩ | ⟨rfl, -⟩ | ⟨rfl, -⟩
  · rintro c ⟨⟩
    exact isWhiteSpace_of_decimalValue? digit
  · rintro c ⟨⟩
    rfl
  · rintro c ⟨⟩
    rfl

/-- What is read as an integer is digits with a sign, or without, and blanks around it. -/
theorem exists_parts_of_settingNumeral? {t : Text} {numeral : Numeral}
    (h : t.settingNumeral? = some numeral) :
    ∃ before sign digits after, t = before ++ (sign ++ digits ++ after) ∧
      (∀ c ∈ before, c.isWhiteSpace = true) ∧ (sign, numeral.negative) ∈ signs ∧
      Digits digits numeral.digits ∧ ∀ c ∈ after, c.isWhiteSpace = true := by
  obtain ⟨before, after, around, space, space'⟩ := exists_trim CodePoint.isWhiteSpace t
  obtain ⟨sign, is_sign, split⟩ := exists_sign (t.trim CodePoint.isWhiteSpace)
  rcases cut : signed (t.trim CodePoint.isWhiteSpace) with ⟨negative, digits⟩
  rw [settingNumeral?, cut] at h
  rw [cut] at is_sign split
  obtain ⟨ds, run, rfl⟩ := Option.map_eq_some_iff.mp h
  refine ⟨before, sign, digits, after, ?_, space, is_sign, digits_of_digitRun? run, space'⟩
  rwa [split] at around

/-- A setting reads as an integer exactly if it denotes it. -/
theorem settingInteger?_eq_some_iff {t : Text} {n : Int} :
    t.settingInteger? = some n ↔ t.Denotes n := by
  constructor
  · intro h
    unfold settingInteger? at h
    split at h
    · cases h
    · next numeral read =>
      split at h
      · cases h
      · next short =>
        cases h
        obtain ⟨before, sign, digits, after, rfl, space, is_sign, is_digits, space'⟩ :=
          exists_parts_of_settingNumeral? read
        exact .numeral space is_sign is_digits (Nat.le_of_not_lt short) space'
  · rintro ⟨space, is_sign, h, short, space'⟩
    next before sign digits after negative ds =>
    have last : ∀ c ∈ (sign ++ digits).getLast?, c.isWhiteSpace = false := by
      obtain ⟨front, c, d, rfl, digit⟩ := h.last
      rw [← List.append_assoc, List.getLast?_concat]
      rintro _ ⟨⟩
      exact isWhiteSpace_of_decimalValue? digit
    have nonempty : sign ++ digits ≠ [] := by
      obtain ⟨c, more, d, rfl, -⟩ := h.head
      simp
    rw [settingInteger?, settingNumeral?,
      trim_append space space' nonempty (isWhiteSpace_head is_sign h) last, signed_append is_sign h]
    simp only [digitRun?_of_digits h, Option.map_some]
    exact if_neg (Nat.not_lt_of_le short)

end Rulebook.Text
