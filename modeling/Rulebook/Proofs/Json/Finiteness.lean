import Rulebook.Proofs.Json.Numerals
import Rulebook.Proofs.Json.Parts
import Rulebook.Proofs.Json.Transmission
import Rulebook.Proofs.Number.Overflow

/-!
# Which values have a text in the grammar

A value that was read holds a number that is not finite only if a numeral of its text is too large:
the names of such numbers are refused where they stand, but numerals are not looked at once they have
been rounded (`isFinite_or_overflows`). What is written for such a value shows the name of the number,
behind a beginning that calls for a value, and is therefore never read again (`exists_constant`). What
is written for every other value that was read is in the grammar, floats included (`exists_value_text`).
-/

set_option autoImplicit false

namespace Rulebook.Json.Grammar

open Reader Binary64

/-! ## Where numbers come from -/

/-- Whether a numeral with a property is a part of a text. -/
def HasNumeral (property : Numeral → Prop) (t : Text) : Prop :=
  ∃ numeral n, IsPart numeral t ∧ NumeralText numeral n ∧ property n

/-- A numeral in a part of a text is one in the whole, and what holds of it may be weakened. -/
theorem HasNumeral.mono {property wider : Numeral → Prop} {body t : Text} (h : HasNumeral property body)
    (inside : IsPart body t) (le : ∀ n, property n → wider n) : HasNumeral wider t := by
  obtain ⟨numeral, n, part, is_numeral, holds⟩ := h
  exact ⟨numeral, n, part.trans inside, is_numeral, le n holds⟩

/-- Whether a numeral is read as a binary64 number of which a condition fails. -/
def Fails (p : Binary64 → Bool) (n : Numeral) : Prop := ∃ x, number n = .float x ∧ p x = false

/-- A condition holds of every number in a value if it fails of no numeral that is a part of its text. -/
theorem allLeaves_of_no_numeral {p : Binary64 → Bool} {digits levels : Nat} {t : Text} {v : Json}
    (h : Value digits levels t v) (none : ¬ HasNumeral (Fails p) t) :
    v.allLeaves p (fun _ => true) = true := by
  have inherit {body t : Text} (inside : IsPart body t) (none : ¬ HasNumeral (Fails p) t) :
      ¬ HasNumeral (Fails p) body :=
    fun found => none (found.mono inside fun _ => id)
  refine value_induction
    (motive := fun _ t v => ¬ HasNumeral (Fails p) t → v.allLeaves p (fun _ => true) = true)
    ?word ?number ?string ?array ?object h none
  case word =>
    intro levels t v listed _
    simp only [words, List.mem_cons, Prod.mk.injEq, List.not_mem_nil, or_false] at listed
    rcases listed with ⟨-, rfl⟩ | ⟨-, rfl⟩ | ⟨-, rfl⟩ <;> rfl
  case number =>
    intro levels t n numeral _ none
    by_cases integer : IsInteger n
    · rw [number, if_pos integer]
      rfl
    · have read : number n = .float _ := if_neg integer
      by_contra fails
      rw [read, allLeaves, Bool.not_eq_true] at fails
      exact none ⟨t, n, .refl t, numeral, _, read, fails⟩
  case string => exact fun _ _ _ _ => rfl
  case array =>
    intro levels t items ih none
    rw [allLeaves_arr]
    intro v mem
    obtain ⟨body, inside, holds⟩ := ih v mem
    exact holds (inherit inside none)
  case object =>
    intro levels t members ih none
    rw [allLeaves_obj]
    intro member mem
    obtain ⟨body, inside, holds⟩ := ih member.1 member.2 mem
    exact ⟨rfl, holds (inherit inside none)⟩

/-- The magnitude that a numeral denotes. -/
def magnitude (n : Numeral) : ℚ :=
  Text.digitsValue (n.whole ++ n.fraction) * 10 ^ (n.exponent.getD 0 - n.fraction.length)

/-- A numeral that is no integer and denotes more than the largest finite number, by half a unit of the
last place. -/
def Overflows (n : Numeral) : Prop := ¬ IsInteger n ∧ overflowFrom ≤ magnitude n

/-- A numeral whose value is a binary number is no integer, and the number is the one it is rounded to. -/
theorem number_eq_float {n : Numeral} {x : Binary64} (h : number n = .float x) :
    ¬ IsInteger n ∧ x = ofDecimal n.negative (Text.digitsValue (n.whole ++ n.fraction))
      (n.exponent.getD 0 - n.fraction.length) := by
  unfold number at h
  split_ifs at h with integer
  exact ⟨integer, (Json.float.inj h).symm⟩

/-- A numeral overflows exactly if the number for it is not finite. -/
theorem overflows_iff {n : Numeral} : Overflows n ↔ Fails Binary64.isFinite n := by
  constructor
  · rintro ⟨no_integer, large⟩
    refine ⟨_, if_neg no_integer, ?_⟩
    rw [← Bool.not_eq_true, isFinite_ofDecimal, not_lt]
    exact large
  · rintro ⟨x, read, infinite⟩
    obtain ⟨no_integer, rfl⟩ := number_eq_float read
    rw [← Bool.not_eq_true, isFinite_ofDecimal, not_lt] at infinite
    exact ⟨no_integer, infinite⟩

/-- Every number of a value is finite, unless a numeral in its text overflows. -/
theorem isFinite_or_overflows {digits levels : Nat} {t : Text} {v : Json} (h : Value digits levels t v) :
    v.isFinite = true ∨ HasNumeral Overflows t := by
  by_cases found : HasNumeral (Fails Binary64.isFinite) t
  · exact .inr (found.mono (.refl t) fun _ => overflows_iff.mpr)
  · exact .inl (allLeaves_of_no_numeral h found)

/-- No number of a value is undefined. -/
theorem allLeaves_ne_notANumber {digits levels : Nat} {t : Text} {v : Json} (h : Value digits levels t v) :
    v.allLeaves (fun x => x ≠ notANumber) (fun _ => true) = true := by
  apply allLeaves_of_no_numeral h
  rintro ⟨_, n, -, -, x, read, undefined⟩
  rw [decide_eq_false_iff_not, not_not] at undefined
  obtain ⟨-, same⟩ := number_eq_float read
  rw [undefined] at same
  rcases ofDecimal_cases n.negative (Text.digitsValue (n.whole ++ n.fraction))
    (n.exponent.getD 0 - n.fraction.length) with finite | infinite
  · rw [← same] at finite
    cases finite
  · cases same.trans infinite

/-! ## The text of finite values -/

/-- The values whose integers have no more digits than an integer may have. -/
inductive HasShortIntegers : Json → Prop where
  | null : HasShortIntegers .null
  | bool (value : Bool) : HasShortIntegers (.bool value)
  | int {n : Int} (short : n.natAbs < 10 ^ digitLimit) : HasShortIntegers (.int n)
  | float (x : Binary64) : HasShortIntegers (.float x)
  | str (t : Text) : HasShortIntegers (.str t)
  | arr {items : List Json} (h : ∀ v ∈ items, HasShortIntegers v) : HasShortIntegers (.arr items)
  | obj {members : Members} (h : ∀ key v, (key, v) ∈ members → HasShortIntegers v) :
      HasShortIntegers (.obj members)

/-- The items of an array with short integers have short integers. -/
theorem HasShortIntegers.item {items : List Json} (h : HasShortIntegers (.arr items)) {v : Json}
    (mem : v ∈ items) : HasShortIntegers v := by
  cases h with
  | arr inside => exact inside v mem

/-- The values of an object with short integers have short integers. -/
theorem HasShortIntegers.value {members : Members} (h : HasShortIntegers (.obj members)) {key : Text}
    {v : Json} (mem : (key, v) ∈ members) : HasShortIntegers v := by
  cases h with
  | obj inside => exact inside key v mem

/-- Digits have a value below the power of ten with as many zeros. -/
theorem digitsValue_lt {digits : Text} (all : ∀ c ∈ digits, c.isDigit = true) :
    Text.digitsValue digits < 10 ^ digits.length := by
  induction digits using List.reverseRecOn with
  | nil => exact Nat.one_pos
  | append_singleton front c ih =>
    have below := ih fun d mem => all d (List.mem_append_left _ mem)
    have digit : c.digitValue < 10 := by
      have := all c (by simp)
      simp only [CodePoint.isDigit, Bool.and_eq_true, decide_eq_true_iff] at this
      rw [CodePoint.digitValue]
      omega
    rw [Text.digitsValue] at below
    rw [Text.digitsValue, List.foldl_append, List.length_append, List.length_singleton, pow_succ]
    simp only [List.foldl_cons, List.foldl_nil]
    omega

/-- A whole number has digits only. -/
theorem Whole.isDigit {t : Text} (h : Whole t) : ∀ c ∈ t, c.isDigit = true := by
  cases h with
  | zero => exact isDigits_zero.2
  | digits digit _ rest => exact List.forall_mem_cons.mpr ⟨digit, rest⟩

/-- Items are nested as deep as the deepest of them at most. -/
theorem nestingItems_le {items : List Json} {levels : Nat} (h : ∀ v ∈ items, v.nesting ≤ levels) :
    nestingItems items ≤ levels := by
  induction items with
  | nil => exact Nat.zero_le _
  | cons item rest ih =>
    rw [nestingItems]
    exact Nat.max_le.mpr ⟨h item List.mem_cons_self, ih fun v mem => h v (List.mem_cons_of_mem _ mem)⟩

/-- Members are nested as deep as the deepest of their values at most. -/
theorem nestingMembers_le {members : Members} {levels : Nat}
    (h : ∀ key v, (key, v) ∈ members → v.nesting ≤ levels) : nestingMembers members ≤ levels := by
  induction members with
  | nil => exact Nat.zero_le _
  | cons member rest ih =>
    obtain ⟨key, v⟩ := member
    rw [nestingMembers]
    exact Nat.max_le.mpr
      ⟨h key v List.mem_cons_self, ih fun k w mem => h k w (List.mem_cons_of_mem _ mem)⟩

/-- A value that was read has short integers, and nests no deeper than it may. -/
theorem hasShortIntegers_of_value {levels : Nat} {t : Text} {v : Json} (h : Value digitLimit levels t v) :
    HasShortIntegers v ∧ v.nesting ≤ levels := by
  refine value_induction (motive := fun levels _ v => HasShortIntegers v ∧ v.nesting ≤ levels)
    ?word ?number ?string ?array ?object h
  case word =>
    intro levels t v listed
    simp only [words, List.mem_cons, Prod.mk.injEq, List.not_mem_nil, or_false] at listed
    rcases listed with ⟨-, rfl⟩ | ⟨-, rfl⟩ | ⟨-, rfl⟩
    · exact ⟨.null, Nat.zero_le _⟩
    · exact ⟨.bool _, Nat.zero_le _⟩
    · exact ⟨.bool _, Nat.zero_le _⟩
  case number =>
    intro levels t n numeral short
    unfold number
    split_ifs with integer
    · cases numeral with
      | parts is_whole =>
        have below := digitsValue_lt is_whole.isDigit
        have enough := Nat.pow_le_pow_right (n := 10) (by decide) (short integer)
        refine ⟨.int (lt_of_lt_of_le ?_ enough), Nat.zero_le _⟩
        unfold signedInt
        split_ifs <;> simpa using below
    · exact ⟨.float _, Nat.zero_le _⟩
  case string => exact fun _ _ s => ⟨.str s, Nat.zero_le _⟩
  case array =>
    intro levels t items ih
    refine ⟨.arr fun v mem => ?_, ?_⟩
    · obtain ⟨_, _, short, -⟩ := ih v mem
      exact short
    · rw [nesting, Nat.add_comm]
      refine Nat.succ_le_succ (nestingItems_le fun v mem => ?_)
      obtain ⟨_, _, -, fits⟩ := ih v mem
      exact fits
  case object =>
    intro levels t members ih
    refine ⟨.obj fun key v mem => ?_, ?_⟩
    · obtain ⟨_, _, short, -⟩ := ih key v mem
      exact short
    · rw [nesting, Nat.add_comm]
      refine Nat.succ_le_succ (nestingMembers_le fun key v mem => ?_)
      obtain ⟨_, _, -, fits⟩ := ih key v mem
      exact fits

/-- Where each entry has a value of its own in another grammar, entries have their values in that grammar.
-/
theorem Entries.exists_values {α β : Type} {grammar : Text → α → Prop} {value : Text → β → Prop}
    (h : ∀ t a, grammar t a → ∃ b, value t b) {t : Text} {as : List α} (entries : Entries grammar t as) :
    ∃ bs, Entries value t bs := by
  induction entries with
  | last space is_entry space' =>
    obtain ⟨b, is_value⟩ := h _ _ is_entry
    exact ⟨_, .last space is_value space'⟩
  | more space is_entry space' _ ih =>
    obtain ⟨b, is_value⟩ := h _ _ is_entry
    obtain ⟨bs, others⟩ := ih
    exact ⟨_, .more space is_value space' others⟩

/-- What is written for entries each of which stands for something stands for a sequence. -/
theorem exists_sequence_join {α β : Type} {value : Text → β → Prop} {write : α → Text} {as : List α}
    (h : ∀ a ∈ as, ∃ b, value (write a) b) :
    ∃ bs, Sequence value (Text.join ", " (as.map write)) bs := by
  have written : Sequence (fun t (_ : α) => ∃ b, value t b) (Text.join ", " (as.map write)) as :=
    sequence_join h
  cases written with
  | empty space => exact ⟨[], .empty space⟩
  | filled entries =>
    obtain ⟨bs, values⟩ := entries.exists_values fun _ _ => id
    exact ⟨bs, .filled values⟩

/-- A member whose value can be read can be read itself, whatever its key is. -/
theorem exists_member_memberText {value : Text → Json → Prop} {key : Text} {v w : Json}
    (h : value v.text w) : ∃ pair, Member value (memberText (key, v)) pair := by
  have pair := Member.pair (.quoted (body_flatMap key)) IsSpace.nil isSpace_blank h
  rw [memberText, List.append_assoc]
  exact ⟨_, pair⟩

/-- The text of a value with finite numbers and short integers is a value of the grammar. It need not
stand for the value it was written for: halves of a pair side by side are joined. -/
theorem exists_value_text {v : Json} (h : HasShortIntegers v) (finite : v.isFinite = true) {levels : Nat}
    (fits : v.nesting ≤ levels) : ∃ w, Value digitLimit levels v.text w := by
  induction h generalizing levels with
  | null => exact ⟨_, value_text .null fits⟩
  | bool value => exact ⟨_, value_text (.bool value) fits⟩
  | int short => exact ⟨_, value_text (.int short) fits⟩
  | float x =>
    obtain ⟨n, numeral, no_integer⟩ := exists_numeral_text finite
    cases levels <;> exact ⟨_, .number numeral fun integer => absurd integer no_integer⟩
  | str t => cases levels <;> exact ⟨_, .string (.quoted (body_flatMap t))⟩
  | @arr items _ ih =>
    rw [isFinite, allLeaves_arr] at finite
    rw [nesting] at fits
    obtain ⟨inner, rfl⟩ : ∃ inner, levels = inner + 1 := ⟨levels - 1, by omega⟩
    have inside : ∀ v ∈ items, ∃ w, Value digitLimit inner v.text w := by
      intro v mem
      have := nesting_le_nestingItems mem
      exact ih v mem (finite v mem) (by omega)
    obtain ⟨_, is_sequence⟩ := exists_sequence_join inside
    rw [text, textItems_eq_join]
    exact ⟨_, .array rfl is_sequence⟩
  | @obj members _ ih =>
    rw [isFinite, allLeaves_obj] at finite
    rw [nesting] at fits
    obtain ⟨inner, rfl⟩ : ∃ inner, levels = inner + 1 := ⟨levels - 1, by omega⟩
    have inside : ∀ member ∈ members, ∃ pair, Member (Value digitLimit inner) (memberText member) pair := by
      rintro ⟨key, v⟩ mem
      have := nesting_le_nestingMembers mem
      obtain ⟨w, is_value⟩ := ih key v mem (finite _ mem).2 (show v.nesting ≤ inner by omega)
      exact exists_member_memberText is_value
    obtain ⟨_, is_sequence⟩ := exists_sequence_join inside
    rw [text, textMembers_eq_join]
    exact ⟨_, .object rfl is_sequence⟩

/-! ## The text of other values -/

/-- Written entries in front of one are passed on the way to it. -/
theorem exists_passed_join {α β : Type} {grammar : Text → β → Prop} {write : α → Text} {front : List α}
    (h : ∀ a ∈ front, ∃ b, grammar (write a) b) (a : α) (back : List α) {lead : Text}
    (space : IsSpace lead) :
    ∃ done space rest, lead ++ Text.join ", " ((front ++ a :: back).map write) =
      done ++ (space ++ (write a ++ rest)) ∧ Passed grammar done ∧ IsSpace space := by
  induction front generalizing lead with
  | nil =>
    obtain ⟨rest, join⟩ : ∃ rest, Text.join ", " ((a :: back).map write) = write a ++ rest := by
      cases back with
      | nil => exact ⟨[], (List.append_nil _).symm⟩
      | cons next others => exact ⟨_, List.append_assoc _ _ _⟩
    exact ⟨[], lead, rest, by rw [List.nil_append, join, List.nil_append], .nil, space⟩
  | cons first others ih =>
    obtain ⟨b, is_entry⟩ := h first List.mem_cons_self
    obtain ⟨done, blank, rest, join, passed, is_space⟩ :=
      ih (fun a mem => h a (List.mem_cons_of_mem _ mem)) isSpace_blank
    have step : Text.join ", " (((first :: others) ++ a :: back).map write) =
        write first ++ (',' : CodePoint) ::
          ([(' ' : CodePoint)] ++ Text.join ", " ((others ++ a :: back).map write)) := by
      obtain ⟨next, more, later⟩ : ∃ next more, others ++ a :: back = next :: more := by
        cases others <;> exact ⟨_, _, rfl⟩
      rw [List.cons_append, later]
      exact List.append_assoc (write first) _ _
    refine ⟨_, blank, rest, ?_, .cons space is_entry IsSpace.nil passed, is_space⟩
    rw [step, join]
    simp only [List.append_assoc, List.cons_append, List.nil_append]

/-- Among written entries not all of whose values are finite, one that is not comes behind entries that
are passed. -/
theorem exists_infinite_entry {α β : Type} {grammar : Text → β → Prop} {write : α → Text}
    {value : α → Json} {as : List α} (h : ¬ ∀ a ∈ as, (value a).isFinite = true)
    (passable : ∀ a ∈ as, (value a).isFinite = true → ∃ b, grammar (write a) b) :
    ∃ a ∈ as, (value a).isFinite = false ∧ ∃ done space rest,
      Text.join ", " (as.map write) = done ++ (space ++ (write a ++ rest)) ∧ Passed grammar done ∧
        IsSpace space := by
  rcases found : as.find? fun a => !(value a).isFinite with _ | a
  · rw [List.find?_eq_none] at found
    exact absurd (fun a mem => by simpa using found a mem) h
  · obtain ⟨infinite, front, back, rfl, before⟩ := List.find?_eq_some_iff_append.mp found
    refine ⟨a, by simp, by simpa using infinite, exists_passed_join ?_ a back IsSpace.nil⟩
    intro b mem
    exact passable b (List.mem_append_left _ mem) (by simpa using before b mem)

/-- A number that is not finite is written as one of the constants. -/
theorem text_mem_constants {x : Binary64} (infinite : x.isFinite = false) :
    (x.text numberNames, x) ∈ Reader.constants := by
  cases x with
  | finite => cases infinite
  | infinite negative =>
    cases negative
    · exact .tail _ (.head _)
    · exact .tail _ (.tail _ (.head _))
  | notANumber => exact .head _

/-- The name of a number that is not finite is a part of the text of every value that has such a number. -/
theorem exists_constant {v : Json} (h : HasShortIntegers v) (infinite : v.isFinite = false) :
    ∃ name x, IsPart name v.text ∧ (name, x) ∈ Reader.constants := by
  have passable {v : Json} (short : HasShortIntegers v) (finite : v.isFinite = true) :
      ∃ w, AnyValue v.text w := by
    obtain ⟨w, is_value⟩ := exists_value_text short finite le_rfl
    exact ⟨w, digitLimit, v.nesting, is_value⟩
  -- The first item or member that is not finite stands behind finite ones, which are values and passed.
  induction h with
  | null | bool | int | str => cases infinite
  | float x => exact ⟨_, x, .refl _, text_mem_constants infinite⟩
  | @arr items short ih =>
    rw [isFinite, ← Bool.not_eq_true, allLeaves_arr] at infinite
    obtain ⟨item, mem, item_infinite, done, space, rest, join, passed, is_space⟩ :=
      exists_infinite_entry infinite fun v mem => passable (short v mem)
    obtain ⟨name, x, inner, listed⟩ := ih item mem item_infinite
    refine ⟨name, x, inner.trans ?_, listed⟩
    have part := isPart_item passed is_space item.text (rest ++ ([']'] : Text))
    rw [text, textItems_eq_join, join]
    simpa [Text.ofString] using part
  | @obj members short ih =>
    have some_infinite : ¬ ∀ member ∈ members, member.2.isFinite = true := by
      intro all
      rw [isFinite, ← Bool.not_eq_true, allLeaves_obj] at infinite
      exact infinite fun member mem => ⟨rfl, all member mem⟩
    have passable_member : ∀ member ∈ members, member.2.isFinite = true →
        ∃ pair, Member AnyValue (memberText member) pair := by
      rintro ⟨key, v⟩ mem finite
      obtain ⟨w, is_value⟩ := passable (short key v mem) finite
      exact exists_member_memberText is_value
    obtain ⟨⟨key, v⟩, mem, value_infinite, done, space, rest, join, passed, is_space⟩ :=
      exists_infinite_entry some_infinite passable_member
    obtain ⟨name, x, inner, listed⟩ := ih key v mem value_infinite
    refine ⟨name, x, inner.trans ?_, listed⟩
    have is_key : StringText (quote key) _ := .quoted (body_flatMap key)
    have part := isPart_member passed is_space is_key IsSpace.nil isSpace_blank v.text
      (rest ++ (['}'] : Text))
    rw [text, textMembers_eq_join, join, memberText]
    simpa [Text.ofString] using part

/-- A text is no JSON if, where a value is due, it has the text of a value with a number that is not
finite. -/
theorem not_document_of_infinite {before : Text} (place : AwaitsValue before) {v : Json}
    (h : HasShortIntegers v) (infinite : v.isFinite = false) (rest : Text) (w : Json) :
    document strict (before ++ (v.text ++ rest)) ≠ .ok w := by
  intro accepted
  obtain ⟨name, x, ⟨inside, behind, split, at_place⟩, listed⟩ := exists_constant h infinite
  have split_all : before ++ (v.text ++ rest) = (before ++ inside) ++ (name ++ (behind ++ rest)) := by
    rw [split]
    simp only [List.append_assoc]
  rw [split_all] at accepted
  have opens := head_append_of_opens opens_constant listed (behind ++ rest)
  exact not_beginsWithValue_constant listed _ (beginsWithValue (at_place _ place) opens accepted)

end Rulebook.Json.Grammar
