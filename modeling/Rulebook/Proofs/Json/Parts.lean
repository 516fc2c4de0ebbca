import Rulebook.Proofs.Json.Beginnings
import Rulebook.Proofs.Json.DistinctKeys

/-!
# The parts of a value and their texts

The text of an array or an object has the texts of the values in it where a value is due, so a beginning
of a JSON text that leads up to the whole can be drawn out to lead up to a part (`IsPart`). This carries
an induction over the values of the grammar in which the text of each part is known with its place
(`value_induction`). A member whose key comes again later has a text, but is no part of the value.
-/

set_option autoImplicit false

namespace Rulebook.Members

/-- What pairs that are put one by one leave is one of the pairs or was there before. -/
theorem exists_of_mem_foldl_put {pairs : List (Text × Json)} {members : Members} {key : Text} {v : Json}
    (h : (key, v) ∈ pairs.foldl (fun members (key, value) => put key value members) members) :
    (∃ k, (k, v) ∈ pairs) ∨ (key, v) ∈ members := by
  induction pairs generalizing members with
  | nil => exact .inr h
  | cons pair rest ih =>
    rcases ih h with ⟨k, mem⟩ | mem
    · exact .inl ⟨k, List.mem_cons_of_mem _ mem⟩
    · obtain ⟨k, value⟩ := pair
      refine (mem_put mem).imp_left ?_
      rintro rfl
      exact ⟨k, List.mem_cons_self⟩

/-- The values of the members that pairs leave are among those of the pairs. -/
theorem exists_pair_of_mem_ofPairs {pairs : List (Text × Json)} {key : Text} {v : Json}
    (h : (key, v) ∈ ofPairs pairs) : ∃ k, (k, v) ∈ pairs :=
  (exists_of_mem_foldl_put h).resolve_right List.not_mem_nil

end Rulebook.Members

namespace Rulebook.Json.Grammar

open Reader

/-- Whether a text stands in another one where a value is due, if that one does in turn. -/
def IsPart (body t : Text) : Prop :=
  ∃ before rest, t = before ++ (body ++ rest) ∧
    ∀ outer, AwaitsValue outer → AwaitsValue (outer ++ before)

/-- A text is part of itself. -/
theorem IsPart.refl (t : Text) : IsPart t t := by
  refine ⟨[], [], (List.append_nil t).symm, fun outer place => ?_⟩
  rwa [List.append_nil]

/-- A part of a part is a part. -/
theorem IsPart.trans {body middle t : Text} (h : IsPart body middle) (h' : IsPart middle t) :
    IsPart body t := by
  obtain ⟨before, rest, rfl, place⟩ := h
  obtain ⟨before', rest', rfl, place'⟩ := h'
  refine ⟨before' ++ before, rest ++ rest', by simp only [List.append_assoc], fun outer awaits => ?_⟩
  rw [← List.append_assoc]
  exact place _ (place' outer awaits)

/-- An item behind others is part of its array. -/
theorem isPart_item {done space : Text} (passed : Passed AnyValue done) (is_space : IsSpace space)
    (body rest : Text) : IsPart body ('[' :: (done ++ (space ++ (body ++ rest)))) := by
  refine ⟨'[' :: (done ++ space), rest, by simp only [List.cons_append, List.append_assoc], ?_⟩
  exact fun outer awaits => .item awaits passed is_space

/-- A value behind other members is part of its object. -/
theorem isPart_member {done space name key before after : Text} (passed : Passed (Member AnyValue) done)
    (is_space : IsSpace space) (is_key : StringText name key) (space' : IsSpace before)
    (space'' : IsSpace after) (body rest : Text) :
    IsPart body ('{' :: (done ++ (space ++ (name ++ (before ++ (':' : CodePoint) :: (after ++ body)) ++
      rest)))) := by
  refine ⟨'{' :: (done ++ (space ++ (name ++ (before ++ (':' : CodePoint) :: after)))), rest,
    by simp only [List.cons_append, List.append_assoc], ?_⟩
  exact fun outer awaits => .member awaits passed is_space is_key space' space''

section Entries

variable {α : Type} {grammar wider : Text → α → Prop}

/-- An entry of a sequence comes behind entries that are passed. -/
theorem Entries.exists_passed (le : ∀ t a, grammar t a → wider t a) {t : Text} {as : List α}
    (h : Entries grammar t as) {a : α} (mem : a ∈ as) :
    ∃ done space body rest, t = done ++ (space ++ (body ++ rest)) ∧ Passed wider done ∧ IsSpace space ∧
      grammar body a := by
  induction h with
  | @last before body after _ space is_entry _ =>
    cases List.mem_singleton.mp mem
    exact ⟨[], before, body, after, rfl, .nil, space, is_entry⟩
  | @more before body after _ _ _ space is_entry space' _ ih =>
    rcases List.mem_cons.mp mem with rfl | later
    · exact ⟨[], before, body, _, rfl, .nil, space, is_entry⟩
    · obtain ⟨done, blank, inner, rest, rfl, passed, is_space, is_inner⟩ := ih later
      refine ⟨_, blank, inner, rest, ?_, .cons space (le _ _ is_entry) space' passed, is_space, is_inner⟩
      simp only [List.append_assoc, List.cons_append]

/-- An entry of a sequence stands behind entries that are passed. -/
theorem Sequence.exists_passed (le : ∀ t a, grammar t a → wider t a) {t : Text} {as : List α}
    (h : Sequence grammar t as) {a : α} (mem : a ∈ as) :
    ∃ done space body rest, t = done ++ (space ++ (body ++ rest)) ∧ Passed wider done ∧ IsSpace space ∧
      grammar body a := by
  cases h with
  | empty => cases mem
  | filled entries => exact entries.exists_passed le mem

end Entries

/-- The members of a wider grammar of values include those of a narrower one. -/
theorem Member.mono {value wider : Text → Json → Prop} (le : ∀ t v, value t v → wider t v) {t : Text}
    {pair : Text × Json} (h : Member value t pair) : Member wider t pair := by
  cases h with
  | pair is_key space space' is_value => exact .pair is_key space space' (le _ _ is_value)

/-- Induction over the values of the grammar, with the text of each part where it stands. -/
theorem value_induction {digits : Nat} {motive : Nat → Text → Json → Prop}
    (word : ∀ levels t v, (t, v) ∈ words → motive levels t v)
    (number : ∀ levels t n, NumeralText t n → (IsInteger n → n.whole.length ≤ digits) →
      motive levels t (number n))
    (string : ∀ levels t s, motive levels t (.str s))
    (array : ∀ levels t items, (∀ v ∈ items, ∃ body, IsPart body t ∧ motive levels body v) →
      motive (levels + 1) t (.arr items))
    (object : ∀ levels t members,
      (∀ key v, (key, v) ∈ members → ∃ body, IsPart body t ∧ motive levels body v) →
        motive (levels + 1) t (.obj members))
    {levels : Nat} {t : Text} {v : Json} (h : Value digits levels t v) : motive levels t v := by
  -- The induction is on the levels that are left, since a value inside has one level less.
  induction levels generalizing t v with
  | zero =>
    cases h with
    | word listed => exact word _ _ _ listed
    | number numeral short => exact number _ _ _ numeral short
    | string => exact string _ _ _
    | array opens | object opens => cases opens
  | succ levels ih =>
    have any : ∀ t v, Value digits levels t v → AnyValue t v := fun _ _ h => ⟨digits, levels, h⟩
    cases h with
    | word listed => exact word _ _ _ listed
    | number numeral short => exact number _ _ _ numeral short
    | string => exact string _ _ _
    | array opens is_sequence =>
      cases opens
      refine array _ _ _ fun v mem => ?_
      obtain ⟨done, space, body, rest, rfl, passed, is_space, is_value⟩ :=
        is_sequence.exists_passed any mem
      refine ⟨body, ?_, ih is_value⟩
      have part := isPart_item passed is_space body (rest ++ ([']'] : Text))
      simpa only [List.append_assoc] using part
    | object opens is_sequence =>
      cases opens
      refine object _ _ _ fun key v mem => ?_
      obtain ⟨k, pair⟩ := Members.exists_pair_of_mem_ofPairs mem
      obtain ⟨done, space, _, rest, rfl, passed, is_space, is_member⟩ :=
        is_sequence.exists_passed (fun _ _ => Member.mono any) pair
      cases is_member with
      | @pair _ _ _ _ body _ is_key space' space'' is_value =>
        refine ⟨body, ?_, ih is_value⟩
        have part := isPart_member passed is_space is_key space' space'' body (rest ++ (['}'] : Text))
        simpa only [List.append_assoc] using part

end Rulebook.Json.Grammar
