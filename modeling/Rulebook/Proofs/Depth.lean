import Rulebook.Depth

/-!
# Depths that a bound admits

A bound admits a depth that does not exceed it. For an integer this is the order of integers,
zero and negative bounds included, and with a depth every bound admits what lies above it. Bounds are
compared by the depths that they admit.
-/

set_option autoImplicit false

namespace Rulebook.DepthBound

/-- Whether a rule may lie at a depth. -/
def Admits (bound : DepthBound) (depth : Nat) : Prop := bound.isExceededBy depth = false

/-- Whether a bound admits a depth is told by comparing them. -/
instance (bound : DepthBound) (depth : Nat) : Decidable (bound.Admits depth) :=
  inferInstanceAs (Decidable (_ = _))

/-- A bound that does not admit a depth is exceeded by it. -/
theorem not_admits {bound : DepthBound} {depth : Nat} :
    ¬ bound.Admits depth ↔ bound.isExceededBy depth = true := by
  unfold Admits
  rw [Bool.not_eq_false]

/-- An integer admits the depths up to itself. -/
theorem admits_integer {n : Int} {depth : Nat} : (integer n).Admits depth ↔ (depth : Int) ≤ n := by
  unfold Admits
  rw [isExceededBy, decide_eq_false_iff_not]
  omega

/-- A bound that admits a depth admits every smaller one. -/
theorem Admits.mono {bound : DepthBound} {depth above : Nat} (h : bound.Admits depth)
    (le : above ≤ depth) : bound.Admits above := by
  unfold Admits at h ⊢
  cases bound with
  | integer n =>
    simp only [isExceededBy, decide_eq_false_iff_not] at h ⊢
    omega
  | truth value =>
    simp only [isExceededBy, decide_eq_false_iff_not] at h ⊢
    omega
  | float x =>
    cases x with
    | infinite negative => exact h
    | notANumber => rfl
    | finite negative mantissa exponent =>
      obtain ⟨floor, hf⟩ : ∃ floor, (Binary64.finite negative mantissa exponent).floor? = some floor :=
        ⟨_, rfl⟩
      simp only [isExceededBy, hf, Option.any_some, decide_eq_false_iff_not] at h ⊢
      omega

/-- Whether one bound admits no more depths than another. -/
def AtMost (bound wider : DepthBound) : Prop := ∀ depth, bound.Admits depth → wider.Admits depth

/-- Of two integers the lesser one is the narrower bound. -/
theorem atMost_integer {n m : Int} (le : n ≤ m) : (integer n).AtMost (integer m) := by
  intro depth within
  rw [admits_integer] at within ⊢
  omega

end Rulebook.DepthBound
