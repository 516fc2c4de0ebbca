import Rulebook.Proofs.Document.Verdict
import Rulebook.Proofs.Json.Beginnings
import Rulebook.Proofs.Json.RoundTrip

/-!
# Which texts are documents

A document is read if and only if it is a JSON text of an array, within the limits on nesting and on
digits. Every other text has a critical cause: one that is JSON within the limits is told that it is
no array, or neither array nor object, and only the others are told that they are no JSON.

The text that is written for rule sets is such a text, and reading it gives the rule sets back.
-/

set_option autoImplicit false

namespace Rulebook.Document

open Json.Grammar
open Json.Reader (digitLimit strict)

/-- A JSON text within the limits of the strict reader, with the value it stands for. -/
def IsJson (t : Text) (v : Json) : Prop := Sentence digitLimit strict.nestingLimit t v

/-- What comes of a text that is JSON is decided by its value. -/
theorem parse_of_isJson {t : Text} {v : Json} (h : IsJson t v) :
    parse (.value (.str t)) =
      match v with
      | .arr ruleSets => .ok ruleSets
      | .obj _ => .error .notArray
      | v => .error (.scalar v.kind) := by
  have read := (strictDocument_eq_ok_iff t v).mpr h
  rw [parse, parseText, read]
  cases v <;> rfl

/-- A document that can be read is JSON. -/
theorem isJson_of_parse {t : Text} {ruleSets : List Json}
    (h : parse (.value (.str t)) = .ok ruleSets) : IsJson t (.arr ruleSets) := by
  obtain ⟨_, same, read⟩ := exists_array_of_parse h
  cases same
  exact (strictDocument_eq_ok_iff t (.arr ruleSets)).mp read

/-- Reading succeeds exactly on the JSON texts of arrays, each giving its items. Texts with a flaw
have a critical cause. A JSON text of an object or of a scalar is not called invalid JSON, but told
what it is not. -/
theorem parse_accepts_arrays (t : Text) :
    (∀ ruleSets, parse (.value (.str t)) = .ok ruleSets ↔ IsJson t (.arr ruleSets)) ∧
    (Flawed t → ∃ cause, parse (.value (.str t)) = .error cause) ∧
    (∀ members, IsJson t (.obj members) → ∃ cause, parse (.value (.str t)) = .error cause ∧
      cause.message = "Invalid brij JSON - not an array") ∧
    (∀ v, v.kind ≠ .array → v.kind ≠ .object → IsJson t v →
      ∃ cause, parse (.value (.str t)) = .error cause ∧
        cause.message = "Invalid brij JSON - not an object: got instead: " ++ v.kind.name) := by
  refine ⟨fun ruleSets => ⟨isJson_of_parse, parse_of_isJson⟩, ?_, ?_, ?_⟩
  · intro flawed
    rcases read : parse (.value (.str t)) with cause | ruleSets
    · exact ⟨cause, rfl⟩
    · have accepted := (strictDocument_eq_ok_iff t _).mpr (isJson_of_parse read)
      exact absurd accepted (flawed.not_array ruleSets)
  · intro members h
    exact ⟨.notArray, parse_of_isJson h, rfl⟩
  · intro v no_array no_object h
    refine ⟨.scalar v.kind, ?_, rfl⟩
    rw [parse_of_isJson h]
    cases v with
    | arr => exact absurd rfl no_array
    | obj => exact absurd rfl no_object
    | _ => rfl

/-- A comma too many is no JSON, and an object or a word is JSON but no document. -/
theorem parse_of_comma_object_and_word :
    (Flawed "[null,]" ∧ ∃ cause, parse (.value (.str "[null,]")) = .error cause) ∧
    (IsJson "\x7b\x7d" (.obj []) ∧ ∃ cause, parse (.value (.str "\x7b\x7d")) = .error cause ∧
      cause.message = "Invalid brij JSON - not an array") ∧
    (IsJson "null" .null ∧ ∃ cause, parse (.value (.str "null")) = .error cause ∧
      cause.message = "Invalid brij JSON - not an object: got instead: null") := by
  have flawed : Flawed "[null,]" := by
    have item : AnyValue "null" .null := ⟨0, 0, .word (by simp [Json.Reader.words])⟩
    have items : Passed AnyValue "null," := .cons IsSpace.nil item IsSpace.nil .nil
    exact .commaBeforeBracket (.start IsSpace.nil) items (by decide) IsSpace.nil []
  have is_object : IsJson "\x7b\x7d" (.obj []) := (strictDocument_eq_ok_iff _ _).mp rfl
  have is_word : IsJson "null" .null := (strictDocument_eq_ok_iff _ _).mp rfl
  exact ⟨⟨flawed, (parse_accepts_arrays _).2.1 flawed⟩,
    ⟨is_object, (parse_accepts_arrays _).2.2.1 _ is_object⟩,
    ⟨is_word, (parse_accepts_arrays _).2.2.2 _ (by decide) (by decide) is_word⟩⟩

/-- Reading undoes writing: the rule sets whose text it is come back, every object with its members
in the same order. -/
theorem parse_text {ruleSets : List Json} (writable : ∀ v ∈ ruleSets, Writable v)
    (fits : (Json.arr ruleSets).nesting ≤ strict.nestingLimit) :
    parse (.value (.str (Json.arr ruleSets).text)) = .ok ruleSets := by
  have body : Value digitLimit strict.nestingLimit (Json.arr ruleSets).text (.arr ruleSets) :=
    value_text (.arr writable) fits
  have is_json : IsJson ([] ++ ((Json.arr ruleSets).text ++ [])) (.arr ruleSets) :=
    .spaced IsSpace.nil body IsSpace.nil
  rw [List.append_nil] at is_json
  exact parse_of_isJson is_json

/-- Escapes, an integer and an object are read back from what is written of them. -/
theorem parse_text_of_escapes :
    let ruleSets : List Json := [.str "\"é😀\n", .int (-12), .obj [("a", .null)]]
    Writable (.arr ruleSets) ∧ (Json.arr ruleSets).nesting ≤ strict.nestingLimit ∧
      parse (.value (.str (Json.arr ruleSets).text)) = .ok ruleSets := by
  intro ruleSets
  have object : Writable (.obj [("a", .null)]) := by
    refine .obj (by decide) ?_ ?_
    · intro key mem
      cases List.mem_singleton.mp mem
      decide
    · intro key v mem
      cases List.mem_singleton.mp mem
      exact .null
  have short : (-12 : Int).natAbs < 10 ^ digitLimit :=
    calc (-12 : Int).natAbs < 10 ^ 2 := by decide
      _ ≤ 10 ^ digitLimit := Nat.pow_le_pow_right (by decide) (by decide)
  have writable : ∀ v ∈ ruleSets, Writable v := by
    intro v mem
    simp only [ruleSets, List.mem_cons, List.not_mem_nil, or_false] at mem
    rcases mem with rfl | rfl | rfl
    · exact .str (by decide)
    · exact .int short
    · exact object
  have fits : (Json.arr ruleSets).nesting ≤ strict.nestingLimit := by decide
  exact ⟨.arr writable, fits, parse_text writable fits⟩

/-- Two halves of a pair side by side come back as one code point. -/
example :
    let halves : Text := [CodePoint.ofNat 0xD83D, CodePoint.ofNat 0xDE00]
    parse (.value (.str (Json.arr [.str halves]).text)) = .ok [.str "😀"] := by
  decide +kernel

end Rulebook.Document
