import Rulebook.Registry.Display
import Rulebook.Proofs.Registry.Store
import Rulebook.Proofs.Text.Ascii

/-!
# Documents in answers

A time is shown by digits and signs of ASCII, so that it never keeps an answer from being sent, and no two
times are shown alike: every part has its own number of digits, and the fraction is left out for one value
of the microseconds only. So a document can be sent if its texts can be encoded, and an answer that shows
a document tells all that is kept of it.
-/

set_option autoImplicit false

namespace Rulebook

namespace Text

/-- A digit behind the others counts for itself alone. -/
theorem digitsValue_concat (digits : Text) {d : Nat} (small : d < 10) :
    (digits ++ [CodePoint.ofNat (0x30 + d)]).digitsValue = 10 * digits.digitsValue + d := by
  have digit : ∀ d < 10, (CodePoint.ofNat (0x30 + d)).digitValue = d := by decide
  rw [digitsValue, List.foldl_append, List.foldl_cons, List.foldl_nil, digit d small]
  rfl

/-- The last digits of a number have its value but for what lies above them. -/
theorem digitsValue_ofDigits (width n : Nat) : (ofDigits width n).digitsValue = n % 10 ^ width := by
  induction width generalizing n with
  | zero => rw [pow_zero, Nat.mod_one, ofDigits, digitsValue, List.foldl_nil]
  | succ width ih =>
    rw [ofDigits, digitsValue_concat _ (Nat.mod_lt n (by decide)), ih, pow_succ, Nat.mul_comm (10 ^ width),
      Nat.mod_mul, Nat.add_comm]

/-- A number is shown with as many digits as it is to have. -/
theorem length_ofDigits (width n : Nat) : (ofDigits width n).length = width := by
  induction width generalizing n with
  | zero => rfl
  | succ width ih => rw [ofDigits, List.length_append, ih, List.length_singleton]

/-- The last digits of a number are ASCII. -/
theorem isAscii_ofDigits (width n : Nat) : IsAscii (ofDigits width n) := by
  induction width generalizing n with
  | zero => exact isAscii_nil
  | succ width ih =>
    have digit : ∀ d < 10, (CodePoint.ofNat (0x30 + d)).val < 0x80 := by decide
    exact .append (ih (n / 10)) (.cons (digit (n % 10) (Nat.mod_lt n (by decide))) isAscii_nil)

/-- Digits in front of a text tell the number, if there are enough of them, and the text behind. -/
theorem ofDigits_append_inj {width n : Nat} {a b : Fin n} {s t : Text} (enough : n ≤ 10 ^ width)
    (same : ofDigits width a ++ s = ofDigits width b ++ t) : a = b ∧ s = t := by
  have length : (ofDigits width a).length = (ofDigits width b).length := by
    rw [length_ofDigits, length_ofDigits]
  obtain ⟨digits, behind⟩ := List.append_inj same length
  have value := congrArg digitsValue digits
  rw [digitsValue_ofDigits, digitsValue_ofDigits, Nat.mod_eq_of_lt (a.isLt.trans_le enough),
    Nat.mod_eq_of_lt (b.isLt.trans_le enough)] at value
  exact ⟨Fin.ext value, behind⟩

end Text

namespace Time

open Text (IsAscii isAscii_ofDigits ofDigits_append_inj)

/-- The fraction of a second is shown in ASCII. -/
theorem isAscii_fraction (microsecond : Fin 1000000) : IsAscii (fraction microsecond) := by
  have point : IsAscii "." := by decide
  unfold fraction
  split
  · exact Text.isAscii_nil
  · exact point.append (isAscii_ofDigits 6 _)

/-- A time is shown by texts of ASCII. -/
theorem isAscii_text (t : Time) : IsAscii t.text := by
  have hyphen : IsAscii "-" := by decide
  have colon : IsAscii ":" := by decide
  have mark : IsAscii "T" := by decide
  have month := ((isAscii_ofDigits 4 t.year).append hyphen).append (isAscii_ofDigits 2 t.month)
  have day := (month.append hyphen).append (isAscii_ofDigits 2 t.day)
  have hour := (day.append mark).append (isAscii_ofDigits 2 t.hour)
  have minute := (hour.append colon).append (isAscii_ofDigits 2 t.minute)
  have second := (minute.append colon).append (isAscii_ofDigits 2 t.second)
  exact second.append (isAscii_fraction t.microsecond)

/-- No two fractions are shown alike: that of no microseconds is the one without a point. -/
theorem fraction_inj {a b : Fin 1000000} (same : fraction a = fraction b) : a = b := by
  have present {m : Fin 1000000} (h : m ≠ 0) :
      fraction m = ('.' : CodePoint) :: (Text.ofDigits 6 m ++ ([] : Text)) := by
    rw [fraction, if_neg h, List.append_nil]
    rfl
  have absent : fraction 0 = [] := rfl
  by_cases ha : a = 0
  · by_cases hb : b = 0
    · exact ha.trans hb.symm
    · rw [ha, absent, present hb] at same
      cases same
  · by_cases hb : b = 0
    · rw [hb, absent, present ha] at same
      cases same
    · rw [present ha, present hb] at same
      exact (ofDigits_append_inj (by decide) (List.cons.inj same).2).1

/-- No two times are shown alike. -/
theorem text_injective : Function.Injective text := by
  intro t u same
  simp only [text, List.append_assoc] at same
  obtain ⟨year, same⟩ := ofDigits_append_inj (by decide) same
  obtain ⟨month, same⟩ := ofDigits_append_inj (by decide) (List.append_cancel_left same)
  obtain ⟨day, same⟩ := ofDigits_append_inj (by decide) (List.append_cancel_left same)
  obtain ⟨hour, same⟩ := ofDigits_append_inj (by decide) (List.append_cancel_left same)
  obtain ⟨minute, same⟩ := ofDigits_append_inj (by decide) (List.append_cancel_left same)
  obtain ⟨second, same⟩ := ofDigits_append_inj (by decide) (List.append_cancel_left same)
  exact Time.ext year month day hour minute second (fraction_inj same)

example : ({ year := 2024, month := 2, day := 29, second := 7, microsecond := 450 } : Time).text =
    "2024-02-29T00:00:07.000450" := by decide

end Time

namespace StoredDocument

/-- A document can be sent if its texts can be encoded. -/
theorem isTransmissible_toJson {d : StoredDocument} (h : d.IsEncodable) :
    d.toJson.isTransmissible = true := by
  have keys : ∀ key ∈ (["name", "version", "is_active", "notes", "id", "content", "created_at"] :
      List Text), key.isEncodable = true := by decide
  have notes : ((d.notes.map Json.str).getD .null).allLeaves Binary64.isFinite Text.isEncodable =
      true := by
    have encodable := h.notes
    cases hn : d.notes with
    | none => rfl
    | some t =>
      rw [hn] at encodable
      exact encodable
  have created : d.created.text.isEncodable = true := (Time.isAscii_text d.created).isEncodable
  simp only [List.forall_mem_cons] at keys
  simp only [Json.isTransmissible, toJson, Json.allLeaves, Json.allLeavesMembers, keys, h.name, h.content,
    notes, created, Bool.and_true]

/-- No two documents are shown alike. -/
theorem toJson_injective : Function.Injective toJson := by
  intro d e same
  have notes {a b : Option Text} (shown : (a.map Json.str).getD .null = (b.map Json.str).getD .null) :
      a = b := by
    cases a <;> cases b <;> simp_all
  simp only [toJson, Json.obj.injEq, List.cons.injEq, Prod.mk.injEq, Json.str.injEq, Json.int.injEq,
    Json.bool.injEq, true_and, and_true] at same
  obtain ⟨name, version, active, noted, id, content, time⟩ := same
  exact StoredDocument.ext (Int.ofNat.inj id) name version active content (notes noted)
    (Time.text_injective time)

end StoredDocument

end Rulebook
