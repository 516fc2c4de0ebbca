import Rulebook.Text

/-!
# Texts of ASCII

A text of ASCII can be encoded, and every stream of the system can take it. What is put together from such
texts is of ASCII again, and so are numerals.
-/

set_option autoImplicit false

namespace Rulebook

/-- Whether all code points of a text are of ASCII. -/
def Text.IsAscii (t : Text) : Prop := ∀ c ∈ t, c.val < 0x80

/-- Whether a text is ASCII is told code point by code point. -/
instance (t : Text) : Decidable t.IsAscii := List.decidableBAll (fun c : CodePoint => c.val < 0x80) t

namespace Text

/-- The empty text is of ASCII. -/
theorem isAscii_nil : IsAscii [] := by
  intro c mem
  cases mem

/-- Two texts of ASCII are one together. -/
theorem IsAscii.append {s t : Text} (hs : s.IsAscii) (ht : t.IsAscii) : (s ++ t).IsAscii := by
  intro c mem
  rcases List.mem_append.mp mem with front | back
  · exact hs c front
  · exact ht c back

/-- A code point of ASCII may stand in front of a text of ASCII. -/
theorem IsAscii.cons {c : CodePoint} {t : Text} (hc : c.val < 0x80) (ht : t.IsAscii) :
    IsAscii (c :: t) := by
  intro d mem
  rcases List.mem_cons.mp mem with rfl | back
  · exact hc
  · exact ht d back

/-- Texts of ASCII in a row are one together. -/
theorem isAscii_flatMap {α : Type} {f : α → Text} {items : List α} (h : ∀ a ∈ items, (f a).IsAscii) :
    IsAscii (items.flatMap f) := by
  intro c mem
  obtain ⟨a, listed, written⟩ := List.mem_flatMap.mp mem
  exact h a listed c written

/-- A code point of ASCII may be repeated. -/
theorem isAscii_replicate {c : CodePoint} (hc : c.val < 0x80) (n : Nat) :
    IsAscii (List.replicate n c) := by
  intro d mem
  rw [List.eq_of_mem_replicate mem]
  exact hc

/-- Digits are of ASCII. -/
theorem isAscii_of_digits {t : Text} (all : ∀ c ∈ t, c.isDigit = true) : t.IsAscii := by
  intro c mem
  have digit := all c mem
  simp only [CodePoint.isDigit, Bool.and_eq_true, decide_eq_true_iff] at digit
  omega

/-- Hexadecimal numerals are of ASCII. -/
theorem isAscii_ofHex (width n : Nat) : IsAscii (ofHex width n) := by
  induction width generalizing n with
  | zero => exact isAscii_nil
  | succ width ih =>
    have digit : ∀ d < 16, (CodePoint.hexDigit d).val < 0x80 := by decide
    exact .append (ih (n / 16)) (.cons (digit (n % 16) (Nat.mod_lt n (by decide))) isAscii_nil)

/-- A text of ASCII can be encoded, since surrogates are far beyond. -/
theorem IsAscii.isEncodable {t : Text} (h : t.IsAscii) : t.isEncodable = true := by
  refine List.all_eq_true.mpr fun c mem => ?_
  have ascii := h c mem
  have low : ¬ 0xD800 ≤ c.val := by omega
  simp only [CodePoint.isSurrogate, low, decide_false, Bool.false_and, Bool.not_false]

end Text

end Rulebook
