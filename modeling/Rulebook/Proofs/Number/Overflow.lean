import Rulebook.Number.Binary64
import Mathlib

/-!
# Which numerals are too large

A decimal numeral is read as infinity exactly if it is at least `2 ^ 1024 - 2 ^ 970`: the largest finite
number and half a unit of its last place, which is a tie and goes to the even mantissa above
(`ofDecimal_eq_infinite_iff`). No numeral is read as an undefined number.

A ratio is scaled by the power of two at which its mantissa has 53 bits. The bit lengths of numerator and
denominator tell this power but for one, so what is known of it is stated with rational numbers
(`lt_targetExponent`, `le_targetExponent`), and only the rounding itself is about natural ones.
-/

set_option autoImplicit false

namespace Rulebook.Binary64

/-- The least magnitude that is read as infinity. -/
def overflowFrom : ℚ := 2 ^ 1024 - 2 ^ 970

/-! ## Scaling -/

/-- A power is the one with the positive part of its exponent over the one with the negative part. -/
theorem zpow_eq_div (e : ℤ) {b : ℚ} (nonzero : b ≠ 0) : b ^ e = b ^ e.toNat / b ^ (-e).toNat := by
  have split : e = (e.toNat : ℤ) - ((-e).toNat : ℤ) := by omega
  conv_lhs => rw [split]
  rw [zpow_sub₀ nonzero, zpow_natCast, zpow_natCast]

/-- A scaled ratio keeps a positive denominator. -/
theorem scaleDown_snd_pos {num den : ℕ} (pos : 0 < den) (e : ℤ) : 0 < (scaleDown num den e).2 :=
  Nat.mul_pos pos (Nat.pow_pos (by decide))

/-- Scaling a ratio down divides it by a power of two. -/
theorem scaleDown_ratio (num den : ℕ) (e : ℤ) :
    ((scaleDown num den e).1 : ℚ) / (scaleDown num den e).2 = (num : ℚ) / den / 2 ^ e := by
  rw [zpow_eq_div e (by norm_num)]
  simp only [scaleDown, Nat.pow_eq, Nat.cast_mul, Nat.cast_pow, Nat.cast_ofNat]
  field_simp

/-- A scaled ratio is compared with a natural number as the ratio is with a multiple of the power. -/
theorem scaleDown_div_lt_iff {num den : ℕ} (pos : 0 < den) (e : ℤ) (k : ℕ) :
    (scaleDown num den e).1 / (scaleDown num den e).2 < k ↔ (num : ℚ) / den < k * 2 ^ e := by
  have below : (0 : ℚ) < (scaleDown num den e).2 := Nat.cast_pos.mpr (scaleDown_snd_pos pos e)
  have power : (0 : ℚ) < 2 ^ e := zpow_pos (by norm_num) e
  rw [Nat.div_lt_iff_lt_mul (scaleDown_snd_pos pos e), ← div_lt_iff₀ power, ← scaleDown_ratio,
    div_lt_iff₀ below]
  exact_mod_cast Iff.rfl

/-! ## The exponent -/

/-- A number is between the powers of two that its logarithm tells. -/
theorem log2_bounds {n : ℕ} (pos : 0 < n) :
    (2 : ℚ) ^ (n.log2 : ℤ) ≤ n ∧ (n : ℚ) < 2 ^ (n.log2 + 1 : ℤ) := by
  have lower : 2 ^ n.log2 ≤ n := Nat.log2_self_le (Nat.ne_of_gt pos)
  have upper : n < 2 ^ (n.log2 + 1) := Nat.lt_log2_self
  constructor
  · rw [zpow_natCast]
    exact_mod_cast lower
  · rw [← Nat.cast_succ, zpow_natCast]
    exact_mod_cast upper

/-- The bit lengths of a ratio tell its size but for one bit. -/
theorem ratio_bounds {num den : ℕ} (pos : 0 < num) (pos' : 0 < den) :
    (2 : ℚ) ^ ((num.log2 : ℤ) - den.log2 - 1) < (num : ℚ) / den ∧
      (num : ℚ) / den < 2 ^ ((num.log2 : ℤ) - den.log2 + 1) := by
  obtain ⟨num_lower, num_upper⟩ := log2_bounds pos
  obtain ⟨den_lower, den_upper⟩ := log2_bounds pos'
  have den_pos : (0 : ℚ) < den := Nat.cast_pos.mpr pos'
  have split (a b : ℤ) : (2 : ℚ) ^ (a + b) = 2 ^ a * 2 ^ b := zpow_add₀ (by norm_num) a b
  have low_pos : (0 : ℚ) < 2 ^ ((num.log2 : ℤ) - den.log2 - 1) := zpow_pos (by norm_num) _
  have high_pos : (0 : ℚ) < 2 ^ ((num.log2 : ℤ) - den.log2 + 1) := zpow_pos (by norm_num) _
  constructor
  · rw [lt_div_iff₀ den_pos]
    calc (2 : ℚ) ^ ((num.log2 : ℤ) - den.log2 - 1) * den
        < 2 ^ ((num.log2 : ℤ) - den.log2 - 1) * 2 ^ (den.log2 + 1 : ℤ) :=
          mul_lt_mul_of_pos_left den_upper low_pos
      _ = 2 ^ (num.log2 : ℤ) := by rw [← split]; congr 1; ring
      _ ≤ num := num_lower
  · rw [div_lt_iff₀ den_pos]
    calc (num : ℚ) < 2 ^ (num.log2 + 1 : ℤ) := num_upper
      _ = 2 ^ ((num.log2 : ℤ) - den.log2 + 1) * 2 ^ (den.log2 : ℤ) := by
          rw [← split]; congr 1; ring
      _ ≤ 2 ^ ((num.log2 : ℤ) - den.log2 + 1) * den := mul_le_mul_of_nonneg_left den_lower high_pos.le

/-- At its exponent a ratio has a mantissa of at most 53 bits, and of no fewer unless the exponent is the
least one. -/
theorem targetExponent_bounds {num den : ℕ} (pos : 0 < num) (pos' : 0 < den) :
    (num : ℚ) / den < 2 ^ (targetExponent num den + 53) ∧
      (targetExponent num den = leastExponent ∨
        (2 : ℚ) ^ (targetExponent num den + 52) ≤ (num : ℚ) / den) := by
  obtain ⟨lower, upper⟩ := ratio_bounds pos pos'
  let guess : ℤ := (num.log2 : ℤ) - (den.log2 : ℤ) - 52
  have split (a b : ℤ) : (2 : ℚ) ^ (a + b) = 2 ^ a * 2 ^ b := zpow_add₀ (by norm_num) a b
  have mono {a b : ℤ} (le : a ≤ b) : (2 : ℚ) ^ a ≤ 2 ^ b := zpow_le_zpow_right₀ (by norm_num) le
  have test : (scaleDown num den guess).1 / (scaleDown num den guess).2 < leastMantissa ↔
      (num : ℚ) / den < 2 ^ (guess + 52) := by
    rw [scaleDown_div_lt_iff pos', split, mul_comm]
    norm_num [leastMantissa]
  have exact_bounds : ∃ e, targetExponent num den = max e leastExponent ∧
      (num : ℚ) / den < 2 ^ (e + 53) ∧ (2 : ℚ) ^ (e + 52) ≤ (num : ℚ) / den := by
    by_cases small : (scaleDown num den guess).1 / (scaleDown num den guess).2 < leastMantissa
    · refine ⟨guess - 1, ?_, ?_, ?_⟩
      · simp only [targetExponent]
        exact congrArg (max · leastExponent) (if_pos small)
      · exact lt_of_lt_of_le (test.mp small) (mono (by omega))
      · exact (mono (by omega)).trans lower.le
    · refine ⟨guess, ?_, ?_, not_lt.mp (test.not.mp small)⟩
      · simp only [targetExponent]
        exact congrArg (max · leastExponent) (if_neg small)
      · exact lt_of_lt_of_le upper (mono (by omega))
  obtain ⟨e, target, below, above⟩ := exact_bounds
  rw [target]
  rcases le_total e leastExponent with least | greater
  · rw [max_eq_right least]
    exact ⟨lt_of_lt_of_le below (mono (by omega)), .inl rfl⟩
  · rw [max_eq_left greater]
    exact ⟨below, .inr above⟩

/-! ## Rounding -/

/-- A ratio below an even number is rounded up to it from half a unit below on. -/
theorem roundDiv_eq_iff {num den k : ℕ} (pos : 0 < den) (even : k % 2 = 0) (below : num < k * den) :
    roundDiv num den = k ↔ 2 * k * den ≤ 2 * num + den := by
  have parts : den * (num / den) + num % den = num := Nat.div_add_mod num den
  have rest : num % den < den := Nat.mod_lt num pos
  have small : num / den < k := (Nat.div_lt_iff_lt_mul pos).mpr below
  obtain ⟨gap, gap_eq⟩ : ∃ gap, k = num / den + 1 + gap := ⟨k - (num / den + 1), by omega⟩
  have product : 2 * k * den = 2 * (den * (num / den)) + 2 * den + 2 * (gap * den) := by
    rw [gap_eq]
    ring
  -- Either the quotient is next to the number, and odd, or it is at least two below.
  have next_or_far : gap = 0 ∧ gap * den = 0 ∨ 0 < gap ∧ den ≤ gap * den := by
    rcases Nat.eq_zero_or_pos gap with rfl | far
    · exact .inl ⟨rfl, Nat.zero_mul den⟩
    · exact .inr ⟨far, Nat.le_mul_of_pos_left den far⟩
  rw [product]
  unfold roundDiv
  dsimp only
  split_ifs <;> omega

/-- At an exponent, half a unit below the first mantissa that is too long is where the mantissa carries. -/
theorem carry_bound_iff {num den : ℕ} (pos : 0 < den) (e : ℤ) :
    2 * 2 ^ 53 * (scaleDown num den e).2 ≤ 2 * (scaleDown num den e).1 + (scaleDown num den e).2 ↔
      (2 ^ 54 - 1) * (2 : ℚ) ^ (e - 1) ≤ (num : ℚ) / den := by
  have below : (0 : ℚ) < (scaleDown num den e).2 := Nat.cast_pos.mpr (scaleDown_snd_pos pos e)
  have power : (0 : ℚ) < 2 ^ e := zpow_pos (by norm_num) e
  have half : (2 : ℚ) ^ e = 2 * 2 ^ (e - 1) := by
    rw [← zpow_one_add₀ (by norm_num)]
    congr 1
    omega
  have ratio : (2 ^ 54 - 1) * (2 : ℚ) ^ (e - 1) ≤ (num : ℚ) / den ↔
      (2 ^ 54 - 1) / 2 ≤ ((scaleDown num den e).1 : ℚ) / (scaleDown num den e).2 := by
    rw [scaleDown_ratio, le_div_iff₀ power, half]
    ring_nf
  rw [ratio, le_div_iff₀ below, ← Nat.cast_le (α := ℚ)]
  push_cast
  constructor <;> intro h <;> linarith

/-- Numbers overflow from halfway between the greatest finite one and the next power of two. -/
theorem overflowFrom_eq :
    overflowFrom = (2 ^ 54 - 1) * (2 : ℚ) ^ ((greatestExponent : ℤ) - 1) := by
  have exponent : (greatestExponent : ℤ) - 1 = (970 : ℕ) := rfl
  have split : (2 : ℚ) ^ 1024 = 2 ^ 54 * 2 ^ 970 := (pow_add 2 54 970)
  rw [overflowFrom, exponent, zpow_natCast, sub_mul, one_mul, split]

/-- Numbers that overflow are positive. -/
theorem overflowFrom_pos : 0 < overflowFrom := by
  rw [overflowFrom_eq]
  exact mul_pos (by norm_num) (zpow_pos (by norm_num) _)

/-- A number whose exponent is beyond the greatest one overflows. -/
theorem overflowFrom_le {e : ℤ} (h : greatestExponent < e) : overflowFrom ≤ (2 : ℚ) ^ (e + 52) := by
  calc overflowFrom ≤ 2 ^ (54 : ℤ) * (2 : ℚ) ^ ((greatestExponent : ℤ) - 1) := by
        rw [overflowFrom_eq]
        exact mul_le_mul_of_nonneg_right (by norm_num) (zpow_pos (by norm_num) _).le
    _ = (2 : ℚ) ^ (54 + ((greatestExponent : ℤ) - 1)) := (zpow_add₀ (by norm_num) _ _).symm
    _ ≤ 2 ^ (e + 52) := zpow_le_zpow_right₀ (by norm_num) (by omega)

/-- A number whose exponent is below the greatest one does not overflow. -/
theorem lt_overflowFrom {e : ℤ} (h : e < greatestExponent) : (2 : ℚ) ^ (e + 53) < overflowFrom := by
  calc (2 : ℚ) ^ (e + 53) ≤ 2 ^ (53 + ((greatestExponent : ℤ) - 1)) :=
        zpow_le_zpow_right₀ (by norm_num) (by omega)
    _ = 2 ^ (53 : ℤ) * (2 : ℚ) ^ ((greatestExponent : ℤ) - 1) := zpow_add₀ (by norm_num) _ _
    _ < overflowFrom := by
        rw [overflowFrom_eq]
        exact mul_lt_mul_of_pos_right (by norm_num) (zpow_pos (by norm_num) _)

/-- A ratio is infinite if its exponent is too large, be it only after rounding. -/
theorem ofRatio_eq_infinite_iff_exponent (negative : Bool) {num den : ℕ} (pos : 0 < num) :
    ofRatio negative num den = .infinite negative ↔
      greatestExponent < targetExponent num den ∨
        targetExponent num den = greatestExponent ∧
          roundDiv (scaleDown num den (targetExponent num den)).1
            (scaleDown num den (targetExponent num den)).2 = mantissaBound := by
  unfold ofRatio
  rw [if_neg (Nat.ne_of_gt pos)]
  dsimp only
  by_cases carry : roundDiv (scaleDown num den (targetExponent num den)).1
      (scaleDown num den (targetExponent num den)).2 = mantissaBound
  · rw [if_pos carry]
    dsimp only
    by_cases large : greatestExponent < targetExponent num den + 1
    · rw [if_pos large]
      simp only [carry, and_true, true_iff]
      omega
    · rw [if_neg large]
      simp only [carry, and_true, reduceCtorEq, false_iff]
      omega
  · rw [if_neg carry]
    dsimp only
    by_cases large : greatestExponent < targetExponent num den
    · rw [if_pos large]
      simp [large]
    · rw [if_neg large]
      simp [large, carry]

/-- A ratio is read as infinity exactly if it is beyond the largest finite number by half a unit of the
last place or more. -/
theorem ofRatio_eq_infinite_iff (negative : Bool) {num den : ℕ} (pos : 0 < den) :
    ofRatio negative num den = .infinite negative ↔ overflowFrom ≤ (num : ℚ) / den := by
  rcases Nat.eq_zero_or_pos num with rfl | num_pos
  · simp [ofRatio, zero, overflowFrom_pos]
  · obtain ⟨below, above⟩ := targetExponent_bounds num_pos pos
    rw [ofRatio_eq_infinite_iff_exponent negative num_pos]
    rcases lt_trichotomy (targetExponent num den) greatestExponent with small | same | large
    · have finite : (num : ℚ) / den < overflowFrom := below.trans (lt_overflowFrom small)
      simp only [not_le.mpr finite, iff_false]
      omega
    · have fits : (scaleDown num den greatestExponent).1 <
          mantissaBound * (scaleDown num den greatestExponent).2 := by
        rw [← Nat.div_lt_iff_lt_mul (scaleDown_snd_pos pos _), scaleDown_div_lt_iff pos]
        rw [same, zpow_add₀ (by norm_num), mul_comm] at below
        exact_mod_cast below
      have rounds := roundDiv_eq_iff (scaleDown_snd_pos pos greatestExponent) (by decide) fits
      rw [same, rounds, overflowFrom_eq, ← carry_bound_iff pos greatestExponent]
      simp [mantissaBound]
    · have not_least : targetExponent num den ≠ leastExponent := by
        intro least
        rw [least] at large
        exact absurd large (by decide)
      have infinite : overflowFrom ≤ (num : ℚ) / den :=
        (overflowFrom_le large).trans (above.resolve_left not_least)
      simp only [infinite, large, true_or]

/-! ## Decimal numerals -/

/-- A number is between the powers of ten that the count of its digits tells. -/
theorem toDigits_bounds {n : ℕ} (pos : 0 < n) :
    (10 : ℚ) ^ ((Nat.toDigits 10 n).length - 1 : ℤ) ≤ n ∧
      (n : ℚ) < 10 ^ ((Nat.toDigits 10 n).length : ℤ) := by
  have nonempty : 0 < (Nat.toDigits 10 n).length := Nat.length_toDigits_pos
  constructor
  · obtain ⟨k, length⟩ : ∃ k, (Nat.toDigits 10 n).length = k + 1 :=
      ⟨_, (Nat.succ_pred_eq_of_pos nonempty).symm⟩
    have lower : 10 ^ k ≤ n := by
      by_contra short
      rcases Nat.eq_zero_or_pos k with rfl | more
      · omega
      · have := (Nat.length_toDigits_le_iff (b := 10) (by decide) more).mpr (not_le.mp short)
        omega
    rw [length, Nat.cast_succ, add_sub_cancel_right, zpow_natCast]
    exact_mod_cast lower
  · have upper : n < 10 ^ (Nat.toDigits 10 n).length :=
      (Nat.length_toDigits_le_iff (by decide) nonempty).mp le_rfl
    rw [zpow_natCast]
    exact_mod_cast upper

/-- The power of ten with 310 zeros overflows. -/
theorem overflowFrom_le_top : overflowFrom ≤ (10 : ℚ) ^ (310 : ℤ) := by
  have bound : 2 ^ 1024 ≤ 10 ^ 310 := by decide +kernel
  have bound : (2 : ℚ) ^ 1024 ≤ 10 ^ 310 := by exact_mod_cast bound
  have lost : (0 : ℚ) < 2 ^ 970 := pow_pos (by norm_num) 970
  rw [overflowFrom, zpow_ofNat]
  exact (sub_le_self _ lost.le).trans bound

/-- One does not overflow. -/
theorem one_lt_overflowFrom : 1 < overflowFrom := by
  have wide : (1 : ℚ) < 2 ^ 970 := one_lt_pow₀ (by norm_num) (by decide)
  have split : (2 : ℚ) ^ 1024 = 2 ^ 54 * 2 ^ 970 := pow_add 2 54 970
  rw [overflowFrom, split]
  generalize (2 : ℚ) ^ 970 = unit at wide ⊢
  linarith only [wide]

/-- A decimal numeral is read as infinity exactly if it is beyond the largest finite number by half a unit
of the last place or more. -/
theorem ofDecimal_eq_infinite_iff (negative : Bool) (digits : ℕ) (scale : ℤ) :
    ofDecimal negative digits scale = .infinite negative ↔
      overflowFrom ≤ (digits : ℚ) * 10 ^ scale := by
  rcases Nat.eq_zero_or_pos digits with rfl | pos
  · simp [ofDecimal, zero, overflowFrom_pos]
  · obtain ⟨lower, upper⟩ := toDigits_bounds pos
    have power : (0 : ℚ) < 10 ^ scale := zpow_pos (by norm_num) scale
    unfold ofDecimal
    rw [if_neg (Nat.ne_of_gt pos)]
    dsimp only
    split_ifs with far near
    · have beyond : (10 : ℚ) ^ (310 : ℤ) ≤ digits * 10 ^ scale := by
        calc (10 : ℚ) ^ (310 : ℤ) ≤ 10 ^ (((Nat.toDigits 10 digits).length - 1 : ℤ) + scale) :=
              zpow_le_zpow_right₀ (by norm_num) (by omega)
          _ = 10 ^ ((Nat.toDigits 10 digits).length - 1 : ℤ) * 10 ^ scale :=
              zpow_add₀ (by norm_num) _ _
          _ ≤ digits * 10 ^ scale := mul_le_mul_of_nonneg_right lower power.le
      simp only [overflowFrom_le_top.trans beyond]
    · have tiny : (digits : ℚ) * 10 ^ scale < 1 := by
        calc (digits : ℚ) * 10 ^ scale < 10 ^ ((Nat.toDigits 10 digits).length : ℤ) * 10 ^ scale :=
              mul_lt_mul_of_pos_right upper power
          _ = 10 ^ ((Nat.toDigits 10 digits).length + scale) := (zpow_add₀ (by norm_num) _ _).symm
          _ ≤ 1 := zpow_le_one_of_nonpos₀ (by norm_num) (by omega)
      simp only [zero, reduceCtorEq, not_le.mpr (tiny.trans one_lt_overflowFrom)]
    · simp only [Nat.pow_eq]
      rw [ofRatio_eq_infinite_iff negative (Nat.pow_pos (by decide)), zpow_eq_div scale (by norm_num)]
      push_cast
      rw [mul_div_assoc]

/-- A numeral that is not read as a finite number is read as infinity with its sign. -/
theorem ofDecimal_cases (negative : Bool) (digits : ℕ) (scale : ℤ) :
    (ofDecimal negative digits scale).isFinite = true ∨
      ofDecimal negative digits scale = .infinite negative := by
  have ratio (num den : ℕ) : (ofRatio negative num den).isFinite = true ∨
      ofRatio negative num den = .infinite negative := by
    unfold ofRatio
    dsimp only
    split_ifs <;> simp [isFinite, zero]
  unfold ofDecimal
  dsimp only
  split_ifs
  · exact .inl rfl
  · exact .inr rfl
  · exact .inl rfl
  · exact ratio _ _

/-- A decimal numeral is read as a finite number exactly if it is not beyond the largest one by half a
unit of the last place. -/
theorem isFinite_ofDecimal (negative : Bool) (digits : ℕ) (scale : ℤ) :
    (ofDecimal negative digits scale).isFinite = true ↔ (digits : ℚ) * 10 ^ scale < overflowFrom := by
  rw [← not_le, ← ofDecimal_eq_infinite_iff negative]
  constructor
  · intro finite infinite
    rw [infinite] at finite
    cases finite
  · exact (ofDecimal_cases negative digits scale).resolve_right

end Rulebook.Binary64
