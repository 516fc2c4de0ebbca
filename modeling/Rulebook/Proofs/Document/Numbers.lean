import Rulebook.Proofs.Document.Reading
import Rulebook.Proofs.Json.Finiteness

/-!
# Numbers of documents that are not finite

The names of infinity and of undefined numbers are refused wherever they stand in a document, but a
numeral that is too large is rounded to infinity and kept. So the numbers of a document are finite if no
numeral of its text overflows, and none is ever undefined. A label that is the text of an identifier is
JSON, and is read again between brackets, exactly if the numbers of the identifier are finite.
-/

set_option autoImplicit false

namespace Rulebook.Document

open Json.Grammar
open Json.Reader (digitLimit strict Numeral)

/-- What is a value within the limits of the reader is JSON. -/
theorem isJson_of_value {t : Text} {v : Json} (h : Value digitLimit strict.nestingLimit t v) :
    IsJson t v := by
  have sentence : IsJson ([] ++ (t ++ [])) v := .spaced IsSpace.nil h IsSpace.nil
  rwa [List.append_nil] at sentence

/-- A value of the grammar between brackets is read as the only item of an array. -/
theorem parse_brackets {t : Text} {v : Json} {inner : Nat} (limit : strict.nestingLimit = inner + 1)
    (h : Value digitLimit inner t v) : parse (.value (.str ("[" ++ t ++ "]"))) = .ok [v] := by
  have item : Sequence (Value digitLimit inner) ([] ++ (t ++ [])) [v] :=
    .filled (.last IsSpace.nil h IsSpace.nil)
  rw [List.append_nil] at item
  have array : Value digitLimit (inner + 1) ('[' :: (t ++ ([']'] : Text))) (.arr [v]) := .array rfl item
  exact parse_of_isJson (isJson_of_value (limit ▸ array))

/-- Between brackets every numeral that is no integer is read, as a number that is finite unless the
numeral overflows. -/
theorem parse_numeral {numeral : Text} {n : Numeral} (h : NumeralText numeral n)
    (no_integer : ¬ IsInteger n) :
    ∃ x, parse (.value (.str ("[" ++ numeral ++ "]"))) = .ok [.float x] ∧
      (x.isFinite = true ↔ ¬ Overflows n) := by
  obtain ⟨x, read⟩ : ∃ x, Json.Grammar.number n = .float x := ⟨_, if_neg no_integer⟩
  have is_value (levels : Nat) : Value digitLimit levels numeral (.float x) := by
    rw [← read]
    cases levels <;> exact .number h fun integer => absurd integer no_integer
  refine ⟨x, parse_brackets rfl (is_value _), ?_⟩
  rw [overflows_iff, Fails, read]
  simp

/-- The greatest numeral with sixteen digits behind the point that stays finite, and the next one. -/
example :
    (∃ x, parse (.value (.str "[1.7976931348623158e308]")) = .ok [.float x] ∧ x.isFinite = true) ∧
      parse (.value (.str "[1.7976931348623159e308]")) = .ok [.float (.infinite false)] := by
  refine ⟨⟨.finite false 0x1FFFFFFFFFFFFF 971, ?_, rfl⟩, ?_⟩ <;> decide +kernel

/-- A rule set whose identifier is no text is labelled with the JSON text of its identifier. -/
theorem label_eq_text {ruleSet : Members} {id : Json} (found : ruleSet.get? "id" = some id)
    (no_text : id.kind ≠ .string) (position : Text) : label position (.obj ruleSet) = id.text := by
  simp only [label, found]
  cases id with
  | str => exact absurd rfl no_text
  | _ => rfl

/-- The text of a value is JSON, and is read between brackets, exactly if the numbers in it are finite. -/
theorem text_forms {id : Json} (short : HasShortIntegers id) {inner : Nat}
    (limit : strict.nestingLimit = inner + 1) (fits : id.nesting ≤ inner) :
    ((∃ v, IsJson id.text v) ↔ id.isFinite = true) ∧
      ((∃ v, parse (.value (.str ("[" ++ id.text ++ "]"))) = .ok [v]) ↔ id.isFinite = true) := by
  by_cases finite : id.isFinite = true
  · simp only [finite, iff_true]
    obtain ⟨v, is_value⟩ := exists_value_text short finite (Nat.le_succ_of_le fits)
    obtain ⟨w, is_item⟩ := exists_value_text short finite fits
    rw [Nat.succ_eq_add_one, ← limit] at is_value
    exact ⟨⟨v, isJson_of_value is_value⟩, ⟨w, parse_brackets limit is_item⟩⟩
  · have infinite : id.isFinite = false := Bool.eq_false_iff.mpr finite
    simp only [finite, Bool.false_eq_true, iff_false]
    constructor
    · rintro ⟨v, is_json⟩
      have refused := not_document_of_infinite (.start IsSpace.nil) short infinite [] v
      rw [List.append_nil] at refused
      exact refused (document_of_sentence is_json)
    · rintro ⟨v, read⟩
      have opened : AwaitsValue ([] ++ ('[' : CodePoint) :: ([] ++ [])) :=
        .item (.start IsSpace.nil) .nil IsSpace.nil
      have refused := not_document_of_infinite opened short infinite ([']'] : Text) (.arr [v])
      exact refused (document_of_sentence (isJson_of_parse read))

/-- A document that can be read is the text of an array with blanks around it. -/
theorem exists_value_of_parse {t : Text} {ruleSets : List Json}
    (read : parse (.value (.str t)) = .ok ruleSets) :
    ∃ space body after, t = space ++ (body ++ after) ∧ IsSpace space ∧
      Value digitLimit strict.nestingLimit body (.arr ruleSets) := by
  cases isJson_of_parse read with
  | spaced space is_value _ => exact ⟨_, _, _, rfl, space, is_value⟩

/-- Every number of a document is finite, unless a numeral overflows where a value is due. -/
theorem isFinite_or_overflows_of_parse {t : Text} {ruleSets : List Json}
    (read : parse (.value (.str t)) = .ok ruleSets) :
    (Json.arr ruleSets).isFinite = true ∨ ∃ before numeral n rest, t = before ++ (numeral ++ rest) ∧
      AwaitsValue before ∧ NumeralText numeral n ∧ Overflows n := by
  obtain ⟨space, body, after, rfl, is_space, is_value⟩ := exists_value_of_parse read
  apply (isFinite_or_overflows is_value).imp_right
  rintro ⟨numeral, n, ⟨before, rest, rfl, place⟩, is_numeral, overflows⟩
  refine ⟨space ++ before, numeral, n, rest ++ after, ?_, place _ (.start is_space), is_numeral,
    overflows⟩
  simp only [List.append_assoc]

/-- An identifier is two levels further in than its document, and its integers are short. -/
theorem identifier_of_parse {t : Text} {ruleSets : List Json}
    (read : parse (.value (.str t)) = .ok ruleSets) {ruleSet : Members} (element : .obj ruleSet ∈ ruleSets)
    {id : Json} (found : ruleSet.get? "id" = some id) :
    HasShortIntegers id ∧ id.nesting + 2 ≤ strict.nestingLimit := by
  obtain ⟨_, _, _, -, -, is_value⟩ := exists_value_of_parse read
  obtain ⟨short, fits⟩ := hasShortIntegers_of_value is_value
  refine ⟨(short.item element).value (Members.mem_of_get? found), ?_⟩
  have deeper := Json.nesting_lt_of_mem element
  have deepest := Json.nesting_lt_of_get? found
  omega

/-- Every number of a document is finite, unless a numeral overflows where a value is due, and none is
undefined. The label of an element whose identifier is no text is JSON text, and is read again between
brackets, exactly if every number of the identifier is finite, as it is where all numbers of the document
are. And a numeral that overflows does get in. -/
theorem numbers_and_labels (t : Text) :
    (∀ ruleSets : List Json, parse (.value (.str t)) = .ok ruleSets →
      ((Json.arr ruleSets).isFinite = true ∨ ∃ before numeral n rest, t = before ++ (numeral ++ rest) ∧
        AwaitsValue before ∧ NumeralText numeral n ∧ Overflows n) ∧
      (Json.arr ruleSets).allLeaves (fun x => x ≠ .notANumber) (fun _ => true) = true ∧
      ∀ ruleSet : Members, .obj ruleSet ∈ ruleSets → ∀ id, ruleSet.get? "id" = some id →
        id.kind ≠ .string →
        (∀ position, label position (.obj ruleSet) = id.text) ∧
        ((∃ v, IsJson id.text v) ↔ id.isFinite = true) ∧
        ((∃ v, parse (.value (.str ("[" ++ id.text ++ "]"))) = .ok [v]) ↔ id.isFinite = true) ∧
        ((Json.arr ruleSets).isFinite = true → id.isFinite = true)) ∧
    ∀ n, NumeralText t n → ¬ IsInteger n →
      ∃ x, parse (.value (.str ("[" ++ t ++ "]"))) = .ok [.float x] ∧
        (x.isFinite = true ↔ ¬ Overflows n) := by
  refine ⟨fun ruleSets read => ?_, fun n => parse_numeral⟩
  obtain ⟨_, _, _, -, -, is_value⟩ := exists_value_of_parse read
  refine ⟨isFinite_or_overflows_of_parse read, allLeaves_ne_notANumber is_value, ?_⟩
  intro ruleSet element id found no_text
  obtain ⟨short, fits⟩ := identifier_of_parse read element found
  have limit : strict.nestingLimit = 989 + 1 := rfl
  obtain ⟨json, bracketed⟩ := text_forms short limit (by omega)
  refine ⟨label_eq_text found no_text, json, bracketed, fun finite => ?_⟩
  rw [Json.isFinite, Json.allLeaves_arr] at finite
  exact (Json.allLeaves_obj.mp (finite _ element) _ (Members.mem_of_get? found)).2

/-- Of a large and a small numeral in two identifiers, the large one is infinite and the small one zero.
-/
theorem numbers_and_labels_of_large_and_small_id :
    let t : Text := "[\x7b\"id\": 1e400\x7d, \x7b\"id\": [2.5, 1e-400]\x7d]"
    let large : Json := .float (.infinite false)
    let small : Json := .arr [.float (.finite false 5629499534213120 (-51)), .float (.zero false)]
    parse (.value (.str t)) = .ok [.obj [("id", large)], .obj [("id", small)]] ∧
      (∃ before numeral n rest, t = before ++ (numeral ++ rest) ∧ AwaitsValue before ∧
        NumeralText numeral n ∧ Overflows n) ∧
      (label "0" (.obj [("id", large)]) = "Infinity" ∧
        ¬ ∃ v, parse (.value (.str "[Infinity]")) = .ok [v]) ∧
      (label "1" (.obj [("id", small)]) = "[2.5, 0.0]" ∧
        ∃ v, parse (.value (.str "[[2.5, 0.0]]")) = .ok [v]) := by
  intro t large small
  have read : parse (.value (.str t)) = .ok [.obj [("id", large)], .obj [("id", small)]] := by
    decide +kernel
  obtain ⟨numbers, -, labels⟩ := (numbers_and_labels t).1 _ read
  obtain ⟨label_large, -, again_large, -⟩ := labels [("id", large)] (by simp) large rfl (by decide)
  obtain ⟨label_small, -, again_small, -⟩ := labels [("id", small)] (by simp) small rfl (by decide)
  have text_small : small.text = "[2.5, 0.0]" := by decide +kernel
  refine ⟨read, numbers.resolve_left (by decide), ⟨label_large "0", ?_⟩, ?_, ?_⟩
  · exact fun found => absurd (again_large.mp found) (by decide)
  · rw [← text_small]
    exact label_small "1"
  · have again := again_small.mpr (by decide)
    rw [text_small] at again
    exact again

/-- A numeral that is too large enters a document, and as an identifier it gives a label that is not read
again. -/
theorem large_numeral_is_read_as_infinity :
    (¬ ∀ (t : Text) (ruleSets : List Json), parse (.value (.str t)) = .ok ruleSets →
      (Json.arr ruleSets).isFinite = true) ∧
    ¬ ∀ (t : Text) (ruleSets : List Json), parse (.value (.str t)) = .ok ruleSets →
      ∀ ruleSet : Members, .obj ruleSet ∈ ruleSets → ∀ id, ruleSet.get? "id" = some id →
        id.kind ≠ .string →
        ∃ v, parse (.value (.str ("[" ++ label "0" (.obj ruleSet) ++ "]"))) = .ok [v] := by
  constructor
  · intro claimed
    have read : parse (.value (.str "[1e999]")) = .ok [.float (.infinite false)] := by decide +kernel
    exact absurd (claimed _ _ read) (by decide)
  · intro claimed
    have read : parse (.value (.str "[\x7b\"id\": 1e999\x7d]")) =
        .ok [.obj [("id", .float (.infinite false))]] := by decide +kernel
    have refused : parse (.value (.str "[Infinity]")) =
        .error (.notJson "[Infinity]" (.constant "Infinity")) := by decide +kernel
    obtain ⟨v, again⟩ := claimed _ _ read _ List.mem_cons_self _ rfl (by decide)
    cases refused.symm.trans again

end Rulebook.Document
