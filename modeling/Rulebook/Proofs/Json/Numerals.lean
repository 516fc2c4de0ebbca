import Rulebook.Proofs.Json.RoundTrip

/-!
# The numerals of finite numbers

What is written for a finite number is a numeral of JSON, and no integer: it has a fraction or an
exponent. A numeral must not begin with a zero in front of other digits, which is where it matters
that the shortest decimal of a number other than zero has a coefficient other than zero.
-/

set_option autoImplicit false

namespace Rulebook.Binary64

/-- A grid point inside an interval of positive numbers is positive. -/
theorem coefficient_pos_of_onGrid? {i : Interval} {unit place : Int} {d : Decimal}
    (pos : 0 < i.lower) (h : onGrid? i unit place = some d) : 0 < d.coefficient := by
  have lower_pos : 0 < i.lower * (Nat.pow 10 (-place).toNat * Nat.pow 2 unit.toNat) :=
    Nat.mul_pos pos (Nat.mul_pos (Nat.pow_pos (by decide)) (Nat.pow_pos (by decide)))
  unfold onGrid? at h
  dsimp only at h
  generalize Nat.pow 10 (-place).toNat * Nat.pow 2 unit.toNat = step at h lower_pos
  generalize i.middle * step / _ = below at h
  rcases Nat.eq_zero_or_pos below with rfl | below_pos
  · -- Zero is not in the interval, so its neighbour above is.
    simp only [Nat.zero_mul, Nat.le_zero_eq, Nat.ne_of_gt lower_pos, Nat.not_lt_zero, decide_false,
      Bool.false_and, ite_self, Bool.false_eq_true, if_false] at h
    split_ifs at h
    all_goals
      cases h
      exact Nat.one_pos
  · have near : d.coefficient = below ∨ d.coefficient = below + 1 := by
      split_ifs at h <;> cases h <;> simp
    omega

/-- The shortest digits of a positive number are not zero. -/
theorem shortest_coefficient_pos {mantissa : Nat} (pos : 0 < mantissa) (exponent : Int) :
    0 < (shortest mantissa exponent).coefficient := by
  have lower_pos : 0 < (interval mantissa exponent).lower := by
    unfold interval
    dsimp only
    split_ifs <;> omega
  unfold shortest
  dsimp only
  rcases found : (List.range 18).findSome? _ with _ | d
  · exact Nat.mul_pos pos (Nat.pow_pos (by decide))
  · obtain ⟨n, -, hit⟩ := List.exists_of_findSome?_eq_some found
    exact coefficient_pos_of_onGrid? lower_pos hit

end Rulebook.Binary64

namespace Rulebook.Json.Grammar

open Reader Binary64

/-- Zeros are digits. -/
theorem isDigit_of_mem_zeros {n : Nat} {c : CodePoint} (h : c ∈ zeros n) : c.isDigit = true := by
  rw [List.eq_of_mem_replicate h]
  rfl

/-- A zero is a run of digits. -/
theorem isDigits_zero : IsDigits ['0'] := by
  refine ⟨List.cons_ne_nil _ _, fun c mem => ?_⟩
  rw [List.mem_singleton.mp mem]
  rfl

/-- Digits of which the first is no zero. -/
structure Significant (digits : Text) : Prop where
  all : ∀ c ∈ digits, c.isDigit = true
  first : ∃ c more, digits = c :: more ∧ c ≠ '0'

/-- The digits of a positive number have no zero in front. -/
theorem significant_ofNat {n : Nat} (pos : 0 < n) : Significant (Text.ofNat n) := by
  obtain ⟨d, more, digits, nonzero⟩ := exists_first_digit pos
  exact ⟨fun c mem => isDigit_of_mem_ofNat mem, _, _, congrArg (List.map CodePoint.ofChar) digits,
    nonzero⟩

/-- Significant digits are a run of digits. -/
theorem Significant.isDigits {digits : Text} (h : Significant digits) : IsDigits digits := by
  obtain ⟨c, more, rfl, -⟩ := h.first
  exact ⟨List.cons_ne_nil c more, h.all⟩

/-- Significant digits are a whole number. -/
theorem Significant.whole {digits : Text} (h : Significant digits) : Whole digits := by
  obtain ⟨c, more, rfl, nonzero⟩ := h.first
  exact .digits (h.all c List.mem_cons_self) nonzero fun d mem => h.all d (List.mem_cons_of_mem _ mem)

/-- Zeros behind significant digits leave them significant. -/
theorem Significant.append_zeros {digits : Text} (h : Significant digits) (n : Nat) :
    Significant (digits ++ zeros n) := by
  obtain ⟨c, more, rfl, nonzero⟩ := h.first
  refine ⟨fun d mem => ?_, c, more ++ zeros n, rfl, nonzero⟩
  rcases List.mem_append.mp mem with front | back
  · exact h.all d front
  · exact isDigit_of_mem_zeros back

/-- The first of significant digits are significant. -/
theorem Significant.take {digits : Text} (h : Significant digits) {n : Nat} (pos : 0 < n) :
    Significant (digits.take n) := by
  obtain ⟨c, more, rfl, nonzero⟩ := h.first
  obtain ⟨m, rfl⟩ : ∃ m, n = m + 1 := ⟨n - 1, by omega⟩
  exact ⟨fun d mem => h.all d (List.mem_of_mem_take mem), c, more.take m, rfl, nonzero⟩

/-- Zeros in front of a run of digits give one. -/
theorem isDigits_zeros_append {digits : Text} (h : IsDigits digits) (n : Nat) :
    IsDigits (zeros n ++ digits) := by
  refine ⟨List.append_ne_nil_of_right_ne_nil _ h.1, fun c mem => ?_⟩
  rcases List.mem_append.mp mem with front | back
  · exact isDigit_of_mem_zeros front
  · exact h.2 c back

/-- Behind the first digits the others are a fraction, or there is none. -/
theorem Significant.fraction_drop {digits : Text} (h : Significant digits) (n : Nat) :
    Fraction (if digits.drop n = [] then [] else ("." : Text) ++ digits.drop n) (digits.drop n) := by
  split_ifs with none
  · rw [none]
    exact .none
  · exact .some ⟨none, fun c mem => h.all c (List.mem_of_mem_drop mem)⟩

/-- Whether a text without a sign is a numeral, and no integer. -/
def IsFloat (t : Text) : Prop :=
  ∀ negative, ∃ n, NumeralText (minus negative ++ t) n ∧ ¬ IsInteger n

/-- A whole number with a fraction is the text of a float. -/
theorem isFloat_of_fraction {whole digits : Text} (h : Whole whole) (h' : IsDigits digits) :
    IsFloat (whole ++ ('.' : CodePoint) :: digits) := by
  intro negative
  have parts : NumeralText (minus negative ++ (whole ++ (('.' : CodePoint) :: digits ++ [])))
      ⟨negative, whole, digits, none⟩ := .parts h (.some h') .none
  rw [List.append_nil] at parts
  exact ⟨_, parts, fun integer => h'.1 integer.1⟩

/-- A whole number with an exponent is the text of a float. -/
theorem isFloat_of_exponent {whole point fraction power : Text} {n : Int} (h : Whole whole)
    (h' : Fraction point fraction) (h'' : Exponent power (some n)) :
    IsFloat (whole ++ (point ++ power)) := by
  intro negative
  exact ⟨_, .parts h h' h'', fun integer => nomatch integer.2⟩

/-- The power of ten of a decimal as it is written behind the letter. -/
theorem exponent_text (n : Int) :
    ∃ m, Exponent (("e" : Text) ++ ((if n < 0 then "-" else "+" : Text) ++
      (zeros (2 - (Text.ofNat n.natAbs).length) ++ Text.ofNat n.natAbs))) (some m) := by
  have digits : IsDigits (Text.ofNat n.natAbs) :=
    ⟨by simp [Text.ofNat], fun c mem => isDigit_of_mem_ofNat mem⟩
  have sign : ((if n < 0 then "-" else "+" : Text), decide (n < 0)) ∈ exponentSigns := by
    rcases lt_or_ge n 0 with negative | positive
    · rw [if_pos negative, decide_eq_true negative]
      exact .tail _ (.tail _ (.head _))
    · rw [if_neg (not_lt.mpr positive), decide_eq_false (not_lt.mpr positive)]
      exact .tail _ (.head _)
  have power := Exponent.some (.inl (rfl : CodePoint.ofChar 'e' = 'e')) sign
    (isDigits_zeros_append digits (2 - (Text.ofNat n.natAbs).length))
  exact ⟨_, power⟩

/-- The numeral of a positive decimal, where digits before an exponent may stand without a point. -/
theorem isFloat_decimal {form : DecimalForm} (plain : form.wholeFraction = []) {d : Decimal}
    (pos : 0 < d.coefficient) : IsFloat (d.text form) := by
  have digits := significant_ofNat pos
  unfold Decimal.text
  generalize Text.ofNat d.coefficient = text at digits ⊢
  dsimp only
  generalize (text.length : Int) - 1 + d.exponent = leading
  by_cases positional : -4 ≤ leading ∧ leading < form.exponentFrom
  · rw [if_pos positional]
    by_cases small : leading < 0
    · rw [if_pos small]
      exact isFloat_of_fraction .zero (isDigits_zeros_append digits.isDigits _)
    · rw [if_neg small]
      by_cases whole : text.length ≤ leading.toNat + 1
      · rw [if_pos whole]
        exact isFloat_of_fraction (digits.append_zeros _).whole isDigits_zero
      · rw [if_neg whole, List.splitAt_eq]
        have rest : IsDigits (text.drop (leading.toNat + 1)) := by
          refine ⟨?_, fun c mem => digits.all c (List.mem_of_mem_drop mem)⟩
          rw [Ne, List.drop_eq_nil_iff]
          exact whole
        rw [List.append_assoc]
        exact isFloat_of_fraction (digits.take (Nat.succ_pos leading.toNat)).whole rest
  · rw [if_neg positional, List.splitAt_eq, plain]
    obtain ⟨m, is_exponent⟩ := exponent_text leading
    have power :=
      isFloat_of_exponent (digits.take Nat.one_pos).whole (digits.fraction_drop 1) is_exponent
    simpa only [List.append_assoc] using power

/-- The text of a finite number is a numeral that is no integer. -/
theorem exists_numeral_text {x : Binary64} (finite : x.isFinite = true) :
    ∃ n, NumeralText (x.text numberNames) n ∧ ¬ IsInteger n := by
  cases x with
  | infinite | notANumber => cases finite
  | finite negative mantissa exponent =>
    rw [Binary64.text]
    have magnitude : IsFloat
        (if mantissa = 0 then "0.0" else (shortest mantissa exponent).text shortestForm) := by
      split_ifs with zero
      · exact isFloat_of_fraction .zero isDigits_zero
      · exact isFloat_decimal rfl (shortest_coefficient_pos (Nat.pos_of_ne_zero zero) exponent)
    exact magnitude negative

end Rulebook.Json.Grammar
