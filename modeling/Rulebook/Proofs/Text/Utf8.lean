import Rulebook.Text.Utf8

/-!
# What bytes can hold

Bytes never hold a surrogate, read with replacements or without. A code point that has been begun keeps to
its range from the first byte on: the ranges of the next byte leave out the numbers that have shorter
writings, those of surrogates and those beyond the last code point. `Begun.IsProper` says which numbers
are still open, and every byte that is taken keeps it.
-/

set_option autoImplicit false

namespace Rulebook.Utf8

/-- A code point that has been begun and may still come out as any code point of its length, but not as a
surrogate. -/
structure Begun.IsProper (b : Begun) : Prop where
  low : 0x80 ≤ b.low
  high : b.high ≤ 0xBF
  open_numbers :
    b.owed = 1 ∧ (b.value < 0x360 ∨ 0x380 ≤ b.value ∧ b.value < 0x4400) ∨
    b.owed = 2 ∧ b.value < 0x110 ∧ (b.value = 0xD → b.high ≤ 0x9F) ∨
    b.owed = 3 ∧ b.value ≤ 4 ∧ (b.value = 0 → 0x90 ≤ b.low) ∧ (b.value = 4 → b.high ≤ 0x8F)

/-- What a byte leads to without a surrogate. -/
inductive Opening.IsProper : Opening → Prop where
  | whole {c : CodePoint} (other : c.isSurrogate = false) : IsProper (.whole c)
  | lead {b : Begun} (proper : b.IsProper) : IsProper (.lead b)
  | nothing : IsProper .nothing

/-- A number outside the range of surrogates is no surrogate. -/
theorem isSurrogate_ofNat {n : Nat} (bound : n < 0x110000) (other : n < 0xD800 ∨ 0xE000 ≤ n) :
    (CodePoint.ofNat n).isSurrogate = false := by
  have value : (CodePoint.ofNat n).val = n := Nat.mod_eq_of_lt bound
  rw [CodePoint.isSurrogate, value]
  simp only [Bool.and_eq_false_iff, decide_eq_false_iff_not]
  omega

/-- A byte between code points opens none that could be a surrogate. -/
theorem isProper_opening (position : Nat) (byte : UInt8) : (opening position byte).IsProper := by
  have lead {owed low high value : Nat} (hl : 0x80 ≤ low) (hh : high ≤ 0xBF)
      (hv : owed = 1 ∧ (value < 0x360 ∨ 0x380 ≤ value ∧ value < 0x4400) ∨
        owed = 2 ∧ value < 0x110 ∧ (value = 0xD → high ≤ 0x9F) ∨
        owed = 3 ∧ value ≤ 4 ∧ (value = 0 → 0x90 ≤ low) ∧ (value = 4 → high ≤ 0x8F)) :
      (Opening.lead { start := position, lead := byte, owed, low, high, value }).IsProper :=
    .lead ⟨hl, hh, hv⟩
  unfold opening
  dsimp only
  split
  · exact .whole (isSurrogate_ofNat (by omega) (by omega))
  · split
    · exact .nothing
    · repeat' split
      all_goals first
        | exact .nothing
        | exact lead (by decide) (by decide) (by omega)

/-- A further byte that fits does not make a surrogate either. -/
theorem Begun.IsProper.next {b : Begun} (proper : b.IsProper) {byte : UInt8}
    (continues : b.continues byte = true) : (b.next byte).IsProper := by
  obtain ⟨low, high, open_numbers⟩ := proper
  simp only [Begun.continues, Bool.and_eq_true, decide_eq_true_eq] at continues
  unfold Begun.next
  dsimp only
  split
  · exact .whole (isSurrogate_ofNat (by omega) (by omega))
  · exact .lead ⟨Nat.le_refl _, Nat.le_refl _, by dsimp only; omega⟩

/-- A text can be encoded exactly if it has no surrogate in front and its rest can be. -/
theorem isEncodable_cons {c : CodePoint} {t : Text} :
    Text.isEncodable (c :: t) = true ↔ c.isSurrogate = false ∧ t.isEncodable = true := by
  simp only [Text.isEncodable, List.all_cons, Bool.and_eq_true, Bool.not_eq_true']

/-- Bytes are read without surrogates from wherever a code point has been begun. -/
theorem isEncodable_decodeLossyFrom (bytes : List UInt8) :
    (decodeLossyFrom none bytes).isEncodable = true ∧
      ∀ b : Begun, b.IsProper → (decodeLossyFrom (some b) bytes).isEncodable = true := by
  have marked : replacement.isSurrogate = false := by decide
  induction bytes with
  | nil => exact ⟨rfl, fun _ _ => isEncodable_cons.mpr ⟨marked, rfl⟩⟩
  | cons byte rest ih =>
    have fresh : (decodeLossyFrom none (byte :: rest)).isEncodable = true := by
      have proper := isProper_opening 0 byte
      rw [decodeLossyFrom]
      generalize opening 0 byte = o at proper ⊢
      cases proper with
      | whole other => exact isEncodable_cons.mpr ⟨other, ih.1⟩
      | lead proper => exact ih.2 _ proper
      | nothing => exact isEncodable_cons.mpr ⟨marked, ih.1⟩
    refine ⟨fresh, fun b begun => ?_⟩
    rw [decodeLossyFrom]
    split
    · next continues =>
      have proper := begun.next continues
      generalize b.next byte = o at proper ⊢
      cases proper with
      | whole other => exact isEncodable_cons.mpr ⟨other, ih.1⟩
      | lead proper => exact ih.2 _ proper
      | nothing => exact ih.1
    · exact isEncodable_cons.mpr ⟨marked, fresh⟩

/-- The text that bytes hold can be encoded, whatever takes the place of those that are no text. -/
theorem isEncodable_decodeLossy (bytes : List UInt8) : (decodeLossy bytes).isEncodable = true :=
  (isEncodable_decodeLossyFrom bytes).1

end Rulebook.Utf8
