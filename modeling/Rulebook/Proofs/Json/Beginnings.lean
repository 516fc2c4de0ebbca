import Rulebook.Proofs.Json.Recognition

/-!
# Texts that cannot go on to be JSON

A text is read from its beginning, and what has been read decides what may come next. This file says
after which beginnings a value or a key is due (`AwaitsValue`, `AwaitsKey`), and shows that whatever
the strict reader accepts has one there. From this follow the texts that it never accepts as an
array, however they go on: those with the name of a number that JSON does not have, with a control
character inside a string, with a comma in front of a closing mark, with a zero in front of other
digits, and with anything but white space behind the value.
-/

set_option autoImplicit false

namespace Rulebook.Json.Grammar

open Reader

/-! ## Where a value or a key is due -/

/-- Entries with a comma behind each of them. -/
inductive Passed {α : Type} (entry : Text → α → Prop) : Text → Prop where
  | nil : Passed entry []
  | cons {before body after rest : Text} {a : α} (space : IsSpace before) (h : entry body a)
      (space' : IsSpace after) (others : Passed entry rest) :
      Passed entry (before ++ (body ++ (after ++ (',' : CodePoint) :: rest)))

/-- The beginnings of JSON texts behind which a value may stand. -/
inductive AwaitsValue : Text → Prop where
  | start {space : Text} (h : IsSpace space) : AwaitsValue space
  | item {outer done space : Text} (place : AwaitsValue outer) (items : Passed AnyValue done)
      (h : IsSpace space) : AwaitsValue (outer ++ ('[' : CodePoint) :: (done ++ space))
  | member {outer done space name key before after : Text} (place : AwaitsValue outer)
      (members : Passed (Member AnyValue) done) (h : IsSpace space) (is_key : StringText name key)
      (space' : IsSpace before) (space'' : IsSpace after) :
      AwaitsValue (outer ++ ('{' : CodePoint) ::
        (done ++ (space ++ (name ++ (before ++ (':' : CodePoint) :: after)))))

/-- The beginnings of JSON texts behind which a key may stand. -/
inductive AwaitsKey : Text → Prop where
  | member {outer done space : Text} (place : AwaitsValue outer)
      (members : Passed (Member AnyValue) done) (h : IsSpace space) :
      AwaitsKey (outer ++ ('{' : CodePoint) :: (done ++ space))

/-- Texts with a flaw that no way to go on makes up for. -/
inductive Flawed : Text → Prop where
  | constant {before name : Text} {x : Binary64} (place : AwaitsValue before)
      (listed : (name, x) ∈ Reader.constants) (rest : Text) : Flawed (before ++ (name ++ rest))
  | control {before body : Text} {pieces : List Piece} {c : CodePoint}
      (place : AwaitsValue before ∨ AwaitsKey before) (h : Body body pieces)
      (is_control : c.val < 0x20) (rest : Text) :
      Flawed (before ++ ('"' : CodePoint) :: (body ++ c :: rest))
  | commaBeforeBracket {before done space : Text} (place : AwaitsValue before)
      (items : Passed AnyValue done) (nonempty : done ≠ []) (h : IsSpace space) (rest : Text) :
      Flawed (before ++ ('[' : CodePoint) :: (done ++ (space ++ (']' : CodePoint) :: rest)))
  | commaBeforeBrace {before done space : Text} (place : AwaitsValue before)
      (members : Passed (Member AnyValue) done) (nonempty : done ≠ []) (h : IsSpace space)
      (rest : Text) :
      Flawed (before ++ ('{' : CodePoint) :: (done ++ (space ++ ('}' : CodePoint) :: rest)))
  | leadingZero {before : Text} {d : CodePoint} (place : AwaitsValue before) (negative : Bool)
      (digit : d.isDigit = true) (rest : Text) :
      Flawed (before ++ (minus negative ++ ('0' : CodePoint) :: d :: rest))
  | leftover {before body rest : Text} {v : Json} (space : IsSpace before) (h : AnyValue body v)
      (other : ¬ IsSpace rest) : Flawed (before ++ (body ++ rest))

/-! ## What the reader finds where a value is due -/

section Steps

variable {α : Type} {entry : Step α} {grammar : Text → α → Prop} {fits : Prop} {close : CodePoint}
  {missing : Cause}

/-- Entries that are behind the reader do not matter to what it does next. -/
theorem elements_passed (complete : Complete entry grammar fits) (opens : Opens grammar)
    (closes : Closes close) {done : Text} (h : Passed grammar done) {rest : Text} {clock : Text}
    {found : List α} {result : List α × Text}
    (read : elements entry close missing clock found (skipSpace (done ++ rest)) = .ok result) :
    ∃ clock' found', elements entry close missing clock' found' (skipSpace rest) = .ok result := by
  induction h generalizing clock found with
  | nil => exact ⟨clock, found, read⟩
  | @cons before body after others a space is_entry space' _ ih =>
    simp only [List.append_assoc, List.cons_append] at read
    rw [opens.skipSpace_eq space is_entry] at read
    cases clock with
    | nil => cases read
    | cons tick clock =>
      have delimits := delimits_append space' (.inl rfl) (others ++ rest)
      rcases complete is_entry delimits with taken | ⟨-, fault, stop⟩
      · rw [elements_entry taken space' rfl, if_neg closes.ne_comma.symm, if_pos rfl] at read
        exact ih read
      · rw [elements, stop] at read
        cases read

/-- Behind entries that are passed a sequence goes on with the next one, or it closes if there are none.
-/
theorem sequence_passed (complete : Complete entry grammar fits) (opens : Opens grammar)
    (closes : Closes close) {done : Text} (h : Passed grammar done) {rest : Text}
    {result : List α × Text} (read : sequence entry close missing (done ++ rest) = .ok result) :
    (done = [] ∧ (skipSpace rest).head? = some close) ∨
      ∃ clock found, elements entry close missing clock found (skipSpace rest) = .ok result := by
  rw [sequence] at read
  rcases first : skipSpace (done ++ rest) with _ | ⟨c, more⟩
  · rw [first] at read
    cases read
  · rw [first] at read
    dsimp only at read
    split_ifs at read with is_close
    · left
      cases h with
      | nil =>
        rw [List.nil_append] at first
        rw [first, is_close]
        exact ⟨rfl, rfl⟩
      | cons space is_entry =>
        -- An entry begins with no closing mark.
        rw [List.append_assoc, List.append_assoc, opens.skipSpace_eq space is_entry] at first
        obtain ⟨d, _, rfl, -, no_close⟩ := opens is_entry
        cases first
        exact absurd (is_close ▸ closes) no_close
    · rw [← first] at read
      exact .inr (elements_passed complete opens closes h read)

/-- Whether a text may stand behind a value and the white space that follows it. -/
def MayFollow (t : Text) : Prop := ∀ c ∈ t.head?, c = ',' ∨ c = ']' ∨ c = '}'

/-- The end of the text may stand behind a value. -/
theorem mayFollow_nil : MayFollow [] := by
  intro c mem
  cases mem

/-- Where entries go on, one of them comes next, and behind it a comma or the closing mark. -/
theorem exists_next_entry (closes : Closes close) {clock t rest : Text} {found as : List α}
    (read : elements entry close missing clock found t = .ok (as, rest)) :
    ∃ a tail, entry t = .ok (a, tail) ∧ MayFollow (skipSpace tail) := by
  cases clock with
  | nil => cases read
  | cons tick clock =>
    rw [elements] at read
    rcases taken : entry t with fault | ⟨a, tail⟩
    · rw [taken] at read
      cases read
    · rw [taken] at read
      dsimp only at read
      refine ⟨a, tail, rfl, ?_⟩
      rcases next : skipSpace tail with _ | ⟨c, behind⟩
      · exact mayFollow_nil
      · rw [next] at read
        dsimp only at read
        intro d mem
        cases mem
        split_ifs at read with is_close is_comma
        · exact .inr (is_close ▸ closes)
        · exact .inl is_comma

/-- Behind entries with their commas comes another one; only where there are none yet, the sequence
may be closed. -/
theorem sequence_next (complete : Complete entry grammar fits) (opens : Opens grammar)
    (closes : Closes close) {done : Text} (h : Passed grammar done) {rest tail : Text} {as : List α}
    (read : sequence entry close missing (done ++ rest) = .ok (as, tail)) :
    (done = [] ∧ (skipSpace rest).head? = some close) ∨
      ∃ a behind, entry (skipSpace rest) = .ok (a, behind) ∧ MayFollow (skipSpace behind) := by
  rcases sequence_passed complete opens closes h read with closed | ⟨clock, found, going⟩
  · exact .inl closed
  · exact .inr (exists_next_entry closes going)

end Steps

/-- Every value is read unless a limit is passed. -/
theorem complete_anyValue (limit : Nat) : Complete (value strict limit) AnyValue False := by
  rintro body v rest ⟨digits, levels, h⟩ delimits
  rcases complete_value digits levels limit h delimits with read | ⟨-, stop⟩
  · exact .inl read
  · exact .inr ⟨id, stop⟩

/-- A value does not begin with a blank or with what closes. -/
theorem opens_anyValue : Opens AnyValue := by
  rintro body v ⟨digits, levels, h⟩
  exact opens_value digits levels h

/-- Whether the reader takes a value off a text and can go on behind it. -/
def BeginsWithValue (t : Text) : Prop :=
  ∃ levels v tail, value strict levels t = .ok (v, tail) ∧ MayFollow (skipSpace tail)

/-- Whether the reader takes a member of an object off a text and can go on behind it. -/
def BeginsWithMember (t : Text) : Prop :=
  ∃ levels pair tail, member (value strict levels) t = .ok (pair, tail) ∧ MayFollow (skipSpace tail)

/-- Behind the items of an array that are passed, either the array closes or a value begins. -/
theorem next_item {done rest : Text} (h : BeginsWithValue ('[' :: (done ++ rest)))
    (items : Passed AnyValue done) :
    (done = [] ∧ (skipSpace rest).head? = some (']' : CodePoint)) ∨
      BeginsWithValue (skipSpace rest) := by
  obtain ⟨levels, v, tail, read, -⟩ := h
  cases levels with
  | zero => cases read
  | succ inner =>
    have read : array (value strict inner) (done ++ rest) = .ok (v, tail) := read
    rw [array_eq] at read
    obtain ⟨as, taken, -⟩ := exists_read_of_map read
    rcases sequence_next (complete_anyValue inner) opens_anyValue (.inl rfl) items taken with
      closed | next
    · exact .inl closed
    · exact .inr ⟨inner, next⟩

/-- Behind the members of an object that are passed, either the object closes or a member begins. -/
theorem next_member {done rest : Text} (h : BeginsWithValue ('{' :: (done ++ rest)))
    (members : Passed (Member AnyValue) done) :
    (done = [] ∧ (skipSpace rest).head? = some ('}' : CodePoint)) ∨
      BeginsWithMember (skipSpace rest) := by
  obtain ⟨levels, v, tail, read, -⟩ := h
  cases levels with
  | zero => cases read
  | succ inner =>
    have read : object (value strict inner) (done ++ rest) = .ok (v, tail) := read
    rw [object_eq] at read
    obtain ⟨as, taken, -⟩ :=
      exists_read_of_map (f := fun pairs => Json.obj (Members.ofPairs pairs)) read
    have complete := complete_member (complete_anyValue inner) opens_anyValue
    rcases sequence_next complete opens_member (.inr rfl) members taken with closed | next
    · exact .inl closed
    · exact .inr ⟨inner, next⟩

/-- Behind a key and its colon the reader takes a value. -/
theorem BeginsWithMember.value {name key before after rest : Text} (is_key : StringText name key)
    (space : IsSpace before) (space' : IsSpace after)
    (h : BeginsWithMember (name ++ (before ++ (':' : CodePoint) :: (after ++ rest)))) :
    BeginsWithValue (skipSpace rest) := by
  obtain ⟨levels, pair, tail, read, follows⟩ := h
  obtain ⟨behind, rfl, taken⟩ := string_append is_key
    (name ++ (before ++ (':' : CodePoint) :: (after ++ rest)))
    (before ++ (':' : CodePoint) :: (after ++ rest))
  rw [List.cons_append] at read taken
  rw [member, if_pos rfl, taken] at read
  dsimp only at read
  rw [skipSpace_append space, skipSpace_cons rfl] at read
  dsimp only at read
  rw [if_pos rfl, skipSpace_append space'] at read
  obtain ⟨v, given, -⟩ := exists_read_of_map (f := fun v => (key, v)) read
  exact ⟨levels, v, tail, given, follows⟩

/-- Where a value is due, an accepted text goes on with one, or an array is closed there. -/
theorem value_due {before : Text} (place : AwaitsValue before) {rest : Text} {v : Json}
    (accepted : document strict (before ++ rest) = .ok v) :
    (skipSpace rest).head? = some (']' : CodePoint) ∨ BeginsWithValue (skipSpace rest) := by
  induction place generalizing rest with
  | start space =>
    obtain ⟨tail, read, last⟩ := exists_read_of_document accepted
    rw [skipSpace_append space] at read
    exact .inr ⟨_, v, tail, read, last ▸ mayFollow_nil⟩
  | item _ items space ih =>
    rw [List.append_assoc, List.cons_append, List.append_assoc] at accepted
    rcases ih accepted with closed | found
    · cases closed
    · rw [skipSpace_cons rfl] at found
      have next := next_item found items
      rw [skipSpace_append space] at next
      exact next.imp_left And.right
  | @member outer done space name key before after _ members is_space is_key space' space'' ih =>
    right
    simp only [List.append_assoc, List.cons_append] at accepted
    rcases ih accepted with closed | found
    · cases closed
    · rw [skipSpace_cons rfl] at found
      have next := next_member found members
      have at_key :
          skipSpace (space ++ (name ++ (before ++ (':' : CodePoint) :: (after ++ rest)))) =
            name ++ (before ++ (':' : CodePoint) :: (after ++ rest)) := by
        rw [skipSpace_append is_space]
        cases is_key
        exact skipSpace_cons rfl
      rw [at_key] at next
      rcases next with ⟨-, closed⟩ | begins
      · cases is_key
        cases closed
      · exact begins.value is_key space' space''

/-- Where a key is due, an accepted text goes on with a member, or the object is closed there. -/
theorem key_due {before : Text} (place : AwaitsKey before) {rest : Text} {v : Json}
    (accepted : document strict (before ++ rest) = .ok v) :
    (skipSpace rest).head? = some ('}' : CodePoint) ∨ BeginsWithMember (skipSpace rest) := by
  obtain ⟨outer, members, space⟩ := place
  rw [List.append_assoc, List.cons_append, List.append_assoc] at accepted
  rcases value_due outer accepted with closed | found
  · cases closed
  · rw [skipSpace_cons rfl] at found
    have next := next_member found members
    rw [skipSpace_append space] at next
    exact next.imp_left And.right

/-- Where a value is due and what follows neither is white space nor closes anything, an accepted
text goes on with a value. -/
theorem beginsWithValue {before t : Text} (place : AwaitsValue before)
    (opens : ∃ c ∈ t.head?, isSpace c = false ∧ ¬ Closes c) {v : Json}
    (accepted : document strict (before ++ t) = .ok v) : BeginsWithValue t := by
  obtain ⟨c, head, no_space, no_close⟩ := opens
  obtain ⟨more, rfl⟩ := List.head?_eq_some_iff.mp head
  have due := value_due place accepted
  rw [skipSpace_cons no_space] at due
  rcases due with closed | found
  · cases closed
    exact absurd (.inl rfl) no_close
  · exact found

/-- Where a key is awaited in a text that is read, a member begins. -/
theorem beginsWithMember {before t : Text} (place : AwaitsKey before)
    (opens : ∃ c ∈ t.head?, isSpace c = false ∧ ¬ Closes c) {v : Json}
    (accepted : document strict (before ++ t) = .ok v) : BeginsWithMember t := by
  obtain ⟨c, head, no_space, no_close⟩ := opens
  obtain ⟨more, rfl⟩ := List.head?_eq_some_iff.mp head
  have due := key_due place accepted
  rw [skipSpace_cons no_space] at due
  rcases due with closed | found
  · cases closed
    exact absurd (.inr rfl) no_close
  · exact found

/-! ## Flaws -/

/-- What begins an entry begins the text in front of which it stands. -/
theorem head_append_of_opens {α : Type} {grammar : Text → α → Prop} (opens : Opens grammar)
    {body : Text} {a : α} (h : grammar body a) (rest : Text) :
    ∃ c ∈ (body ++ rest).head?, isSpace c = false ∧ ¬ Closes c := by
  obtain ⟨c, more, rfl, marks⟩ := opens h
  exact ⟨c, rfl, marks⟩

/-- A constant does not begin with a blank or with what closes. -/
theorem opens_constant : Opens fun (t : Text) (x : Binary64) => (t, x) ∈ Reader.constants := by
  intro t x listed
  simp only [constants, List.mem_cons, Prod.mk.injEq, List.not_mem_nil, or_false] at listed
  rcases listed with ⟨rfl, -⟩ | ⟨rfl, -⟩ | ⟨rfl, -⟩ <;>
    exact ⟨_, _, rfl, rfl, by decide⟩

/-- No value begins with such a constant. -/
theorem not_beginsWithValue_constant {name : Text} {x : Binary64}
    (listed : (name, x) ∈ Reader.constants) (rest : Text) : ¬ BeginsWithValue (name ++ rest) := by
  rintro ⟨levels, v, tail, read, -⟩
  simp only [constants, List.mem_cons, Prod.mk.injEq, List.not_mem_nil, or_false] at listed
  rcases listed with ⟨rfl, -⟩ | ⟨rfl, -⟩ | ⟨rfl, -⟩ <;> cases levels <;> cases read

/-- A control character ends the reading of a string. -/
theorem string_control {body : Text} {ps : List Piece} (h : Body body ps) {c : CodePoint}
    (is_control : c.val < 0x20) (start rest : Text) :
    string start (body ++ c :: rest) = .error (.misplaced .control (c :: rest)) := by
  have no_quote : c ≠ '"' := by
    rintro rfl
    exact absurd is_control (by decide)
  have no_escape : c ≠ '\\' := by
    rintro rfl
    exact absurd is_control (by decide)
  rw [string, pieces_append h start [] (List.cons_ne_nil _ _), pieces.eq_def]
  dsimp only
  rw [if_neg no_quote, if_neg no_escape, if_pos is_control]

/-- No value begins with a text that has a control character. -/
theorem not_beginsWithValue_control {body : Text} {ps : List Piece} (h : Body body ps)
    {c : CodePoint} (is_control : c.val < 0x20) (rest : Text) :
    ¬ BeginsWithValue ('"' :: (body ++ c :: rest)) := by
  rintro ⟨levels, v, tail, read, -⟩
  have stop := string_control h is_control ('"' :: (body ++ c :: rest)) rest
  cases levels <;>
  · rw [value, valueWith_cons, if_pos rfl, stop] at read
    cases read

/-- No member begins with a key that has a control character. -/
theorem not_beginsWithMember_control {body : Text} {ps : List Piece} (h : Body body ps)
    {c : CodePoint} (is_control : c.val < 0x20) (rest : Text) :
    ¬ BeginsWithMember ('"' :: (body ++ c :: rest)) := by
  rintro ⟨levels, pair, tail, read, -⟩
  have stop := string_control h is_control ('"' :: (body ++ c :: rest)) rest
  rw [member, if_pos rfl, stop] at read
  cases read

/-- No value begins with an array that has a comma before its closing bracket. -/
theorem not_beginsWithValue_comma_bracket {done space : Text} (items : Passed AnyValue done)
    (nonempty : done ≠ []) (h : IsSpace space) (rest : Text) :
    ¬ BeginsWithValue ('[' :: (done ++ (space ++ (']' : CodePoint) :: rest))) := by
  intro found
  rcases next_item found items with ⟨empty, -⟩ | ⟨levels, v, tail, read, -⟩
  · exact nonempty empty
  · rw [skipSpace_append h, skipSpace_cons rfl] at read
    cases levels <;> cases read

/-- No value begins with an object that has a comma before its closing brace. -/
theorem not_beginsWithValue_comma_brace {done space : Text}
    (members : Passed (Member AnyValue) done) (nonempty : done ≠ []) (h : IsSpace space)
    (rest : Text) :
    ¬ BeginsWithValue ('{' :: (done ++ (space ++ ('}' : CodePoint) :: rest))) := by
  intro found
  rcases next_member found members with ⟨empty, -⟩ | ⟨levels, pair, tail, read, -⟩
  · exact nonempty empty
  · rw [skipSpace_append h, skipSpace_cons rfl] at read
    cases read

/-- Behind a zero no other digit belongs to a numeral. -/
theorem numeral?_leadingZero (negative : Bool) {d : CodePoint} (digit : d.isDigit = true)
    (rest : Text) :
    numeral? (minus negative ++ ('0' : CodePoint) :: d :: rest) =
      some ({ negative, whole := ['0'], fraction := [], exponent := none }, d :: rest) := by
  have sign := cutMinus_append negative (t := ('0' : CodePoint) :: d :: rest) (by
    rintro c ⟨⟩
    rfl)
  have no_fraction : fraction (d :: rest) = ([], d :: rest) := by
    cases rest with
    | nil => rfl
    | cons e more => rw [fraction, if_neg fun h => ne_of_isDigit digit rfl h.1]
  have no_exponent : exponent (d :: rest) = (none, d :: rest) := by
    rw [exponent, if_neg fun h => h.elim (ne_of_isDigit digit rfl) (ne_of_isDigit digit rfl)]
  rw [numeral?_eq, sign]
  dsimp only
  rw [whole?, if_pos rfl]
  dsimp only
  rw [no_fraction, no_exponent]

/-- No value begins with a zero that a digit follows. -/
theorem not_beginsWithValue_leadingZero (negative : Bool) {d : CodePoint}
    (digit : d.isDigit = true) (rest : Text) :
    ¬ BeginsWithValue (minus negative ++ ('0' : CodePoint) :: d :: rest) := by
  rintro ⟨levels, v, tail, read, follows⟩
  have scalar_read : scalar strict (minus negative ++ ('0' : CodePoint) :: d :: rest) =
      .ok (v, tail) := by
    cases negative <;> cases levels <;> exact read
  have no_word : word? words (minus negative ++ ('0' : CodePoint) :: d :: rest) = none := by
    cases negative <;> rfl
  have no_constant : word? constants (minus negative ++ ('0' : CodePoint) :: d :: rest) = none := by
    cases negative <;> rfl
  rw [scalar, no_word, no_constant, numeral?_leadingZero negative digit] at scalar_read
  cases scalar_read
  rw [skipSpace_cons (isSpace_of_isDigit digit)] at follows
  rcases follows d rfl with same | same | same
  all_goals exact ne_of_isDigit digit rfl same

/-- Only arrays begin with a bracket. -/
theorem exists_bracket {digits : Nat} {nested : Option (Text → Json → Prop)} {t : Text}
    {items : List Json} (h : ValueWith digits nested t (.arr items)) :
    ∃ more : Text, t = ('[' : CodePoint) :: more := by
  generalize given : Json.arr items = v at h
  cases h with
  | word listed =>
    subst given
    simp [words] at listed
  | number =>
    unfold number at given
    split_ifs at given
  | string | object => cases given
  | array => exact ⟨_, rfl⟩

/-- A value that begins with a bracket is the sequence of its items up to the closing one. -/
theorem exists_sequence_of_bracket {digits : Nat} {nested : Option (Text → Json → Prop)}
    {more : Text} {v : Json} (h : ValueWith digits nested ('[' :: more) v) :
    ∃ value t items, nested = some value ∧ Sequence value t items ∧ more = t ++ ([']'] : Text) := by
  generalize given : ('[' : CodePoint) :: more = t at h
  cases h with
  | word listed =>
    simp only [words, List.mem_cons, Prod.mk.injEq, List.not_mem_nil, or_false] at listed
    rcases listed with ⟨rfl, -⟩ | ⟨rfl, -⟩ | ⟨rfl, -⟩ <;> cases given
  | number numeral =>
    obtain ⟨d, rest, digit, rfl | rfl⟩ := head_of_numeralText numeral
    · cases given
      cases digit
    · cases given
  | string is_string =>
    cases is_string
    cases given
  | array opens is_sequence =>
    cases given
    exact ⟨_, _, _, opens, is_sequence, rfl⟩
  | object => cases given

/-- An array is read up to its bracket, whatever stands behind it. -/
theorem tail_of_array {limit : Nat} {body rest tail : Text} {v : Json} {items : List Json}
    (h : AnyValue body v) (read : value strict limit (body ++ rest) = .ok (.arr items, tail)) :
    tail = rest := by
  obtain ⟨c, more, rfl, -⟩ := opens_anyValue h
  -- What is read as an array begins with a bracket, so the value in front of the rest is one.
  have bracket : c = '[' := by
    obtain ⟨taken, is_value, split⟩ := sound_value limit read
    have begins : ∃ more : Text, taken = ('[' : CodePoint) :: more := by
      cases limit <;> exact exists_bracket is_value
    obtain ⟨_, rfl⟩ := begins
    exact (List.cons.inj split).1
  subst bracket
  obtain ⟨digits, levels, is_value⟩ := h
  cases levels with
  | zero =>
    obtain ⟨_, _, _, opens, -⟩ := exists_sequence_of_bracket is_value
    cases opens
  | succ levels =>
    obtain ⟨_, t, inside, opens, is_sequence, rfl⟩ := exists_sequence_of_bracket is_value
    cases opens
    cases limit with
    | zero => cases read
    | succ limit =>
      have read : array (value strict limit) (t ++ ([']'] : Text) ++ rest) =
          .ok (.arr items, tail) := read
      rw [array_eq, List.append_assoc] at read
      obtain ⟨as, taken, -⟩ := exists_read_of_map read
      rcases sequence_append (complete_value digits levels limit) (opens_value digits levels)
        (.inl rfl) .value is_sequence rest with due | ⟨-, fault, stop⟩
      · have same := due.symm.trans taken
        cases same
        rfl
      · have same := stop.symm.trans taken
        cases same

/-- Behind an array that is read as the whole text stands only white space. -/
theorem isSpace_of_leftover {before body rest : Text} {v : Json} {items : List Json}
    (space : IsSpace before) (h : AnyValue body v)
    (accepted : document strict (before ++ (body ++ rest)) = .ok (.arr items)) : IsSpace rest := by
  obtain ⟨tail, read, last⟩ := exists_read_of_document accepted
  rw [opens_anyValue.skipSpace_eq space h] at read
  rw [← tail_of_array h read]
  exact isSpace_of_skipSpace_eq_nil last

/-- A text with a flaw is never read as an array. -/
theorem Flawed.not_array {t : Text} (h : Flawed t) (items : List Json) :
    strictDocument t ≠ .ok (.arr items) := by
  intro accepted
  have accepted : document strict t = .ok (.arr items) :=
    document_of_sentence ((strictDocument_eq_ok_iff t _).mp accepted)
  cases h with
  | constant place listed rest =>
    have found := beginsWithValue place (head_append_of_opens opens_constant listed rest) accepted
    exact not_beginsWithValue_constant listed rest found
  | control place is_body is_control rest =>
    have opens : isSpace '"' = false ∧ ¬ Closes '"' := by decide
    rcases place with place | place
    · have found := beginsWithValue place ⟨_, rfl, opens⟩ accepted
      exact not_beginsWithValue_control is_body is_control rest found
    · have found := beginsWithMember place ⟨_, rfl, opens⟩ accepted
      exact not_beginsWithMember_control is_body is_control rest found
  | commaBeforeBracket place items nonempty space rest =>
    have found := beginsWithValue place ⟨_, rfl, rfl, by decide⟩ accepted
    exact not_beginsWithValue_comma_bracket items nonempty space rest found
  | commaBeforeBrace place members nonempty space rest =>
    have found := beginsWithValue place ⟨_, rfl, rfl, by decide⟩ accepted
    exact not_beginsWithValue_comma_brace members nonempty space rest found
  | @leadingZero _ d place negative digit rest =>
    have opens : ∃ c ∈ (minus negative ++ ('0' : CodePoint) :: d :: rest).head?,
        isSpace c = false ∧ ¬ Closes c := by
      cases negative <;> exact ⟨_, rfl, rfl, by decide⟩
    have found := beginsWithValue place opens accepted
    exact not_beginsWithValue_leadingZero negative digit rest found
  | leftover space is_value other => exact other (isSpace_of_leftover space is_value accepted)

end Rulebook.Json.Grammar
