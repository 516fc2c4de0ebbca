import Rulebook.Proofs.Json.Lexemes

/-!
# Which texts the strict reader accepts

The strict reader accepts exactly the sentences of the grammar that keep within its limits on
nesting and on digits, and gives what they stand for.

That what it accepts is in the grammar is shown piece by piece: what a piece of the reader takes off
a text is in the grammar of that piece (`Sound`). For the other direction a piece must be known to
stop neither too early nor too late. A value is followed by white space, a comma, a closing mark or
nothing, and in front of these every piece takes all of it (`Complete`). Texts beyond the limits are
included: there the reader may stop with a fault instead, but it never takes less.

Array items and object members are read alike, so both are one recursion over entries with a mark
that closes them, and the induction over the grammar of entries is made once.
-/

set_option autoImplicit false

namespace Rulebook.Json.Grammar

open Reader

/-! ## What may stand behind a value -/

/-- Whether a text may stand behind a value: it is over, or goes on with white space, a comma or a
closing mark. -/
def Delimits (rest : Text) : Prop :=
  ∀ c ∈ rest.head?, isSpace c = true ∨ c = ',' ∨ c = ']' ∨ c = '}'

/-- What ends a value ends a numeral. -/
theorem Delimits.endsNumeral {rest : Text} (h : Delimits rest) : EndsNumeral rest := by
  intro c mem
  rcases h c mem with space | rfl | rfl | rfl
  · rw [isSpace_iff] at space
    simp only [List.mem_cons, List.not_mem_nil, or_false] at space
    rcases space with rfl | rfl | rfl | rfl <;> decide
  all_goals decide

/-- What goes on with white space and then a mark may stand behind a value if the mark may. -/
theorem delimits_append {space : Text} (h : IsSpace space) {mark : CodePoint}
    (is_mark : mark = ',' ∨ mark = ']' ∨ mark = '}') (rest : Text) :
    Delimits (space ++ mark :: rest) := by
  intro c mem
  cases space with
  | nil =>
    cases mem
    exact .inr is_mark
  | cons s more =>
    cases mem
    exact .inl (isSpace_iff.mpr (h c List.mem_cons_self))

/-- Skipping blanks makes no text longer. -/
theorem length_skipSpace_le (t : Text) : (skipSpace t).length ≤ t.length :=
  (List.dropWhile_suffix isSpace).length_le

/-- The marks that close arrays and objects. -/
def Closes (c : CodePoint) : Prop := c = ']' ∨ c = '}'

/-- Whether something closes is told by comparing it. -/
instance (c : CodePoint) : Decidable (Closes c) := inferInstanceAs (Decidable (_ ∨ _))

/-- Nothing that closes is a blank. -/
theorem Closes.isSpace_eq_false {c : CodePoint} (h : Closes c) : isSpace c = false := by
  rcases h with rfl | rfl <;> rfl

/-- A comma does not close. -/
theorem Closes.ne_comma {c : CodePoint} (h : Closes c) : c ≠ CodePoint.ofChar ',' := by
  rcases h with rfl | rfl <;> decide

/-- A digit does not close. -/
theorem not_closes_of_isDigit {c : CodePoint} (digit : c.isDigit = true) : ¬ Closes c := by
  rintro (rfl | rfl) <;> cases digit

section Steps

variable {α : Type}

/-! ## Pieces of the reader against pieces of the grammar -/

/-- A result is the one that is due, or a fault where the limits are passed. -/
def Reads (result : Except Fault (α × Text)) (a : α) (rest : Text) (fits : Prop) : Prop :=
  result = .ok (a, rest) ∨ (¬ fits ∧ ∃ fault, result = .error fault)

/-- A result that is due is due in any other form as well. -/
theorem Reads.map {β : Type} {result : Except Fault (α × Text)} {a : α} {rest : Text} {fits : Prop}
    (h : Reads result a rest fits) (f : α → β) :
    Reads (result.map fun found => (f found.1, found.2)) (f a) rest fits := by
  rcases h with rfl | ⟨beyond, fault, rfl⟩
  · exact .inl rfl
  · exact .inr ⟨beyond, fault, rfl⟩

/-- What is read in another form is read. -/
theorem exists_read_of_map {β : Type} {result : Except Fault (α × Text)} {f : α → β} {b : β}
    {rest : Text} (h : (result.map fun found => (f found.1, found.2)) = .ok (b, rest)) :
    ∃ a, result = .ok (a, rest) ∧ f a = b := by
  rcases result with fault | ⟨a, behind⟩
  · cases h
  · cases h
    exact ⟨a, rfl, rfl⟩

/-- What a piece of the reader takes is in a grammar, and the rest of the text is what it leaves. -/
def Sound (step : Step α) (grammar : Text → α → Prop) : Prop :=
  ∀ ⦃t : Text⦄ ⦃a : α⦄ ⦃rest : Text⦄, step t = .ok (a, rest) →
    ∃ body, grammar body a ∧ t = body ++ rest

/-- A piece of the reader takes every text of a grammar where the text may end, and gives what it
stands for; only for a grammar that goes beyond the limits it may stop with a fault instead. -/
def Complete (step : Step α) (grammar : Text → α → Prop) (fits : Prop) : Prop :=
  ∀ ⦃body : Text⦄ ⦃a : α⦄ ⦃rest : Text⦄, grammar body a → Delimits rest →
    Reads (step (body ++ rest)) a rest fits

/-- Texts of a grammar begin with a code point that is no white space and closes nothing. -/
def Opens (grammar : Text → α → Prop) : Prop :=
  ∀ ⦃body : Text⦄ ⦃a : α⦄, grammar body a →
    ∃ c more, body = c :: more ∧ isSpace c = false ∧ ¬ Closes c

/-- Blanks in front of an entry are skipped, and no part of the entry. -/
theorem Opens.skipSpace_eq {grammar : Text → α → Prop} (opens : Opens grammar) {before body : Text}
    {a : α} (space : IsSpace before) (h : grammar body a) (rest : Text) :
    skipSpace (before ++ (body ++ rest)) = body ++ rest := by
  obtain ⟨c, more, rfl, no_space, -⟩ := opens h
  rw [skipSpace_append space, List.cons_append, skipSpace_cons no_space]

/-! ## Entries -/

/-- Entries up to a closing mark, the first entry being next: array items and object members are
read alike. -/
def elements (entry : Step α) (close : CodePoint) (missing : Cause) :
    (clock : Text) → (found : List α) → Step (List α)
  | [], _, t => .error (.misplaced missing t)
  | _ :: clock, found, t =>
    match entry t with
    | .error fault => .error fault
    | .ok (a, rest) =>
      match skipSpace rest with
      | [] => .error (.misplaced .comma [])
      | c :: behind =>
        if c = close then .ok ((a :: found).reverse, behind)
        else if c = ',' then elements entry close missing clock (a :: found) (skipSpace behind)
        else .error (.misplaced .comma (c :: behind))

/-- Entries or none up to a closing mark. -/
def sequence (entry : Step α) (close : CodePoint) (missing : Cause) : Step (List α) := fun t =>
  match skipSpace t with
  | [] => .error (.misplaced missing [])
  | c :: rest =>
    if c = close then .ok ([], rest) else elements entry close missing (c :: rest) [] (c :: rest)

/-- The items of an array are read as entries up to a bracket. -/
theorem items_eq (item : Step Json) (clock : Text) (found : List Json) (t : Text) :
    items item clock found t = elements item ']' .value clock found t := by
  induction clock generalizing found t with
  | nil => rfl
  | cons _ clock ih =>
    simp only [items, elements, ih]
    rcases item t with fault | ⟨a, rest⟩
    · rfl
    · cases skipSpace rest <;> rfl

/-- The members of an object are read as entries up to a brace. -/
theorem members_eq (item : Step Json) (clock : Text) (found : List (Text × Json)) (t : Text) :
    members item clock found t =
      elements (member item) '}' .propertyName clock found t := by
  induction clock generalizing found t with
  | nil => rfl
  | cons _ clock ih =>
    simp only [members, elements, ih]
    rcases member item t with fault | ⟨a, rest⟩
    · rfl
    · cases skipSpace rest <;> rfl

/-- An array is a sequence in brackets. -/
theorem array_eq (item : Step Json) (t : Text) :
    array item t = (sequence item ']' .value t).map fun found => (.arr found.1, found.2) := by
  unfold array sequence
  cases skipSpace t with
  | nil => rfl
  | cons c rest =>
    dsimp only
    split
    · rfl
    · rw [items_eq]

/-- An object is a sequence of members in braces. -/
theorem object_eq (item : Step Json) (t : Text) :
    object item t = (sequence (member item) '}' .propertyName t).map fun found =>
      (.obj (Members.ofPairs found.1), found.2) := by
  unfold object sequence
  cases skipSpace t with
  | nil => rfl
  | cons c rest =>
    dsimp only
    split
    · rfl
    · rw [members_eq]

variable {entry : Step α} {grammar : Text → α → Prop} {fits : Prop} {close : CodePoint}
  {missing : Cause}

/-- What follows an entry decides how entries go on. -/
theorem elements_entry {t after rest : Text} {a : α} {mark : CodePoint}
    (read : entry t = .ok (a, after ++ mark :: rest)) (space : IsSpace after)
    (no_space : isSpace mark = false) (tick : CodePoint) (clock : Text) (found : List α) :
    elements entry close missing (tick :: clock) found t =
      if mark = close then .ok ((a :: found).reverse, rest)
      else if mark = ',' then elements entry close missing clock (a :: found) (skipSpace rest)
      else .error (.misplaced .comma (mark :: rest)) := by
  rw [elements, read]
  dsimp only
  rw [skipSpace_append space, skipSpace_cons no_space]

/-- Entries and the mark that closes them are read in full, whatever was found before. -/
theorem elements_entries (complete : Complete entry grammar fits) (opens : Opens grammar)
    (closes : Closes close) (missing : Cause) {t : Text} {as : List α} (h : Entries grammar t as)
    (rest : Text) (clock : Text) (found : List α)
    (enough : (skipSpace (t ++ close :: rest)).length ≤ clock.length) :
    Reads (elements entry close missing clock found (skipSpace (t ++ close :: rest)))
      (found.reverse ++ as) rest fits := by
  -- The clock does not run out: it is as long as the text, and each entry takes a code point.
  induction h generalizing clock found with
  | @last before body after a space is_entry space' =>
    simp only [List.append_assoc] at enough ⊢
    rw [opens.skipSpace_eq space is_entry] at enough ⊢
    obtain ⟨c, more, rfl, -⟩ := opens is_entry
    obtain ⟨tick, clock, rfl⟩ := List.exists_cons_of_length_pos
      (Nat.lt_of_lt_of_le (Nat.succ_pos _) enough)
    have delimits := delimits_append space' (.inr closes) rest
    rcases complete is_entry delimits with read | ⟨beyond, fault, stop⟩
    · left
      rw [elements_entry read space' closes.isSpace_eq_false, if_pos rfl, List.reverse_cons]
    · refine .inr ⟨beyond, fault, ?_⟩
      rw [elements, stop]
  | @more before body after next a others space is_entry space' entries ih =>
    simp only [List.append_assoc, List.cons_append] at enough ⊢
    rw [opens.skipSpace_eq space is_entry] at enough ⊢
    obtain ⟨tick, clock, rfl⟩ := List.exists_cons_of_length_pos (l := clock) (by
      obtain ⟨c, more, rfl, -⟩ := opens is_entry
      exact Nat.lt_of_lt_of_le (Nat.succ_pos _) enough)
    have delimits := delimits_append space' (.inl rfl) (next ++ close :: rest)
    rcases complete is_entry delimits with read | ⟨beyond, fault, stop⟩
    · rw [elements_entry read space' rfl, if_neg closes.ne_comma.symm, if_pos rfl]
      have enough' : (skipSpace (next ++ close :: rest)).length ≤ clock.length := by
        have := length_skipSpace_le (next ++ close :: rest)
        simp only [List.length_append, List.length_cons] at enough this
        omega
      have := ih clock (a :: found) enough'
      rwa [List.reverse_cons, List.append_assoc, List.singleton_append] at this
    · refine .inr ⟨beyond, fault, ?_⟩
      rw [elements, stop]

/-- Entries do not begin with what closes. -/
theorem Entries.head (opens : Opens grammar) {t : Text} {as : List α} (h : Entries grammar t as)
    (rest : Text) : ∃ c more, skipSpace (t ++ rest) = c :: more ∧ ¬ Closes c := by
  cases h with
  | last space is_entry | more space is_entry =>
    rw [List.append_assoc, List.append_assoc, opens.skipSpace_eq space is_entry]
    obtain ⟨c, more, rfl, -, no_close⟩ := opens is_entry
    exact ⟨c, _, rfl, no_close⟩

/-- A sequence of the grammar is read up to what closes it. -/
theorem sequence_append (complete : Complete entry grammar fits) (opens : Opens grammar)
    (closes : Closes close) (missing : Cause) {t : Text} {as : List α} (h : Sequence grammar t as)
    (rest : Text) :
    Reads (sequence entry close missing (t ++ close :: rest)) as rest fits := by
  cases h with
  | empty space =>
    left
    rw [sequence, skipSpace_append space, skipSpace_cons closes.isSpace_eq_false]
    dsimp only
    rw [if_pos rfl]
  | filled entries =>
    have result := elements_entries complete opens closes missing entries rest
      (skipSpace (t ++ close :: rest)) [] le_rfl
    obtain ⟨c, more, first, no_close⟩ := entries.head opens (close :: rest)
    have other : c ≠ close := by
      rintro rfl
      exact no_close closes
    rw [first] at result
    rw [sequence, first]
    dsimp only
    rw [if_neg other]
    exact result

/-- Blanks in front of entries belong to them. -/
theorem Entries.of_space {space t : Text} {as : List α} (h : IsSpace space)
    (entries : Entries grammar t as) : Entries grammar (space ++ t) as := by
  have append {before : Text} (h' : IsSpace before) : IsSpace (space ++ before) := by
    intro c mem
    exact (List.mem_append.mp mem).elim (h c) (h' c)
  cases entries with
  | last space' is_entry space'' =>
    rw [← List.append_assoc]
    exact .last (append space') is_entry space''
  | more space' is_entry space'' next =>
    rw [← List.append_assoc]
    exact .more (append space') is_entry space'' next

/-- What is read as entries is entries of the grammar. -/
theorem exists_entries (sound : Sound entry grammar) {clock : Text} {found : List α} {t rest : Text}
    {as : List α} (h : elements entry close missing clock found t = .ok (as, rest)) :
    ∃ body more, Entries grammar body more ∧ as = found.reverse ++ more ∧
      t = body ++ close :: rest := by
  induction clock generalizing found t with
  | nil => cases h
  | cons tick clock ih =>
    rcases read : entry t with fault | ⟨a, behind⟩
    · rw [elements, read] at h
      cases h
    · obtain ⟨body, is_entry, rfl⟩ := sound read
      obtain ⟨after, space, behind_eq, no_space⟩ := exists_space behind
      rcases mark_eq : skipSpace behind with _ | ⟨mark, next⟩
      · rw [elements, read] at h
        dsimp only at h
        rw [mark_eq] at h
        cases h
      · rw [mark_eq] at behind_eq no_space
        subst behind_eq
        rw [elements_entry read space (no_space mark rfl)] at h
        split_ifs at h with is_close is_comma
        · cases h
          subst is_close
          have last : Entries grammar ([] ++ (body ++ after)) [a] :=
            .last IsSpace.nil is_entry space
          exact ⟨_, [a], last, by simp, by simp⟩
        · subst is_comma
          obtain ⟨before, space', next_eq, -⟩ := exists_space next
          obtain ⟨others, more, entries, rfl, others_eq⟩ := ih h
          rw [others_eq] at next_eq
          have first : Entries grammar
              ([] ++ (body ++ (after ++ (',' : CodePoint) :: (before ++ others)))) (a :: more) :=
            .more IsSpace.nil is_entry space (entries.of_space space')
          exact ⟨_, a :: more, first, by simp, by simp [next_eq]⟩

/-- What is read as a sequence is one of the grammar. -/
theorem exists_sequence (sound : Sound entry grammar) {t rest : Text} {as : List α}
    (h : sequence entry close missing t = .ok (as, rest)) :
    ∃ body, Sequence grammar body as ∧ t = body ++ close :: rest := by
  obtain ⟨space, is_space, t_eq, -⟩ := exists_space t
  rw [sequence] at h
  rcases first : skipSpace t with _ | ⟨c, more⟩
  · rw [first] at h
    cases h
  · rw [first] at h t_eq
    dsimp only at h
    split_ifs at h with is_close
    · cases h
      exact ⟨space, .empty is_space, is_close ▸ t_eq⟩
    · obtain ⟨body, entries, is_entries, rfl, more_eq⟩ := exists_entries sound h
      refine ⟨space ++ body, .filled (is_entries.of_space is_space), ?_⟩
      rw [t_eq, more_eq, List.append_assoc]

end Steps

/-! ## Members -/

/-- A text in quotation marks is read as what it stands for. -/
theorem string_append {name key : Text} (h : StringText name key) (start rest : Text) :
    ∃ behind : Text, name = ('"' : CodePoint) :: behind ∧
      string start (behind ++ rest) = .ok (key, rest) := by
  cases h with
  | quoted is_body =>
    refine ⟨_, rfl, ?_⟩
    rw [string, List.append_assoc]
    rw [List.singleton_append, pieces_body is_body]

/-- What is read as a text in quotation marks is one. -/
theorem exists_string {start t key rest : Text} (h : string start t = .ok (key, rest)) :
    ∃ behind : Text, StringText (('"' : CodePoint) :: behind) key ∧ t = behind ++ rest := by
  rw [string] at h
  rcases read : pieces start [] t with fault | ⟨found, behind⟩
  · rw [read] at h
    cases h
  · rw [read] at h
    cases h
    obtain ⟨body, more, is_body, rfl, rfl⟩ := exists_body_of_pieces read
    exact ⟨body ++ (['"'] : Text), .quoted is_body, by simp⟩

section Values

variable {value : Text → Json → Prop} {item : Step Json} {fits : Prop}

/-- A member does not begin with a blank or with what closes. -/
theorem opens_member : Opens (Member value) := by
  rintro _ _ ⟨is_key, -, -, -⟩
  cases is_key with
  | quoted => exact ⟨'"', _, rfl, rfl, by decide⟩

/-- Every member is read if every value is. -/
theorem complete_member (complete : Complete item value fits) (opens : Opens value) :
    Complete (member item) (Member value) fits := by
  rintro _ _ rest ⟨is_key, space, space', is_value⟩ delimits
  rename_i name key before after body v
  obtain ⟨behind, rfl, read⟩ := string_append is_key
    (name ++ (before ++ (':' : CodePoint) :: (after ++ (body ++ rest))))
    (before ++ (':' : CodePoint) :: (after ++ (body ++ rest)))
  simp only [List.cons_append, List.append_assoc] at read ⊢
  rw [member, if_pos rfl, read]
  dsimp only
  rw [skipSpace_append space, skipSpace_cons rfl]
  dsimp only
  rw [if_pos rfl, opens.skipSpace_eq space' is_value]
  exact (complete is_value delimits).map fun v => (key, v)

/-- What is read as a member is one if what is read as a value is. -/
theorem sound_member (sound : Sound item value) : Sound (member item) (Member value) := by
  intro t pair rest h
  rcases t with _ | ⟨c, more⟩
  · cases h
  · rw [member] at h
    split_ifs at h with quote
    subst quote
    rcases read : string ('"' :: more) more with fault | ⟨key, behind⟩
    · rw [read] at h
      cases h
    · rw [read] at h
      obtain ⟨name, is_key, rfl⟩ := exists_string read
      obtain ⟨before, space, behind_eq, -⟩ := exists_space behind
      dsimp only at h
      rcases mark_eq : skipSpace behind with _ | ⟨mark, next⟩
      · rw [mark_eq] at h
        cases h
      · rw [mark_eq] at h behind_eq
        dsimp only at h
        split_ifs at h with colon
        subst colon
        obtain ⟨after, space', next_eq, -⟩ := exists_space next
        rcases read' : item (skipSpace next) with fault | ⟨v, last⟩
        · rw [read'] at h
          cases h
        · rw [read'] at h
          cases h
          obtain ⟨body, is_value, body_eq⟩ := sound read'
          refine ⟨_, .pair is_key space space' is_value, ?_⟩
          rw [behind_eq, next_eq, body_eq]
          simp

end Values
/-! ## Words and numerals -/

/-- A text is a beginning that it has and what follows. -/
theorem eq_append_of_dropPrefix? {beginning t rest : Text}
    (h : Text.dropPrefix? beginning t = some rest) : t = beginning ++ rest := by
  fun_induction Text.dropPrefix? beginning t with
  | case1 t =>
    cases h
    rfl
  | case2 | case4 => cases h
  | case3 b bs cs ih => rw [List.cons_append, ← ih h]

/-- No word is read where none of the table begins the text. -/
theorem word?_eq_none {α : Type} {table : List (Text × α)} {t : Text}
    (other : ∀ entry ∈ table, Text.dropPrefix? entry.1 t = none) : word? table t = none := by
  rw [word?, List.findSome?_eq_none_iff]
  intro entry mem
  rw [other entry mem]
  rfl

/-- A word is found in front of any text, since no word begins another. -/
theorem word?_words {t : Text} {v : Json} (listed : (t, v) ∈ words) (rest : Text) :
    word? words (t ++ rest) = some ((t, v), rest) := by
  simp only [words, List.mem_cons, Prod.mk.injEq, List.not_mem_nil, or_false] at listed
  rcases listed with ⟨rfl, rfl⟩ | ⟨rfl, rfl⟩ | ⟨rfl, rfl⟩ <;> rfl

/-- A word that is found is in the table and begins the text. -/
theorem exists_word {α : Type} {table : List (Text × α)} {t word rest : Text} {a : α}
    (h : word? table t = some ((word, a), rest)) : (word, a) ∈ table ∧ t = word ++ rest := by
  rw [word?] at h
  obtain ⟨entry, mem, found⟩ := List.exists_of_findSome?_eq_some h
  rw [Option.map_eq_some_iff] at found
  obtain ⟨_, dropped, same⟩ := found
  cases same
  exact ⟨mem, eq_append_of_dropPrefix? dropped⟩

/-- A numeral begins with a digit, or with a minus sign and a digit. -/
theorem head_of_numeralText {t : Text} {n : Numeral} (h : NumeralText t n) :
    ∃ d more, d.isDigit = true ∧ (t = d :: more ∨ t = ('-' : CodePoint) :: d :: more) := by
  cases h with
  | @parts _ _ _ _ negative _ is_whole =>
    obtain ⟨d, more, rfl, digit⟩ := head_of_whole is_whole
    cases negative with
    | false => exact ⟨d, _, digit, .inl rfl⟩
    | true => exact ⟨d, _, digit, .inr rfl⟩

/-- No word and no constant begins as a numeral does. -/
theorem no_word_of_numeralText {t : Text} {n : Numeral} (h : NumeralText t n) (rest : Text) :
    word? words (t ++ rest) = none ∧ word? constants (t ++ rest) = none := by
  obtain ⟨d, more, digit, rfl | rfl⟩ := head_of_numeralText h
  · have letter {b : CodePoint} (h : b.isDigit = false) : b ≠ d := Ne.symm (ne_of_isDigit digit h)
    constructor <;> refine word?_eq_none fun entry mem => ?_
    · simp only [words, List.mem_cons, List.not_mem_nil, or_false] at mem
      rcases mem with rfl | rfl | rfl <;> exact if_neg (letter rfl)
    · simp only [constants, List.mem_cons, List.not_mem_nil, or_false] at mem
      rcases mem with rfl | rfl | rfl <;> exact if_neg (letter rfl)
  · have no_infinity : CodePoint.ofChar 'I' ≠ d := Ne.symm (ne_of_isDigit digit rfl)
    constructor <;> refine word?_eq_none fun entry mem => ?_
    · simp only [words, List.mem_cons, List.not_mem_nil, or_false] at mem
      rcases mem with rfl | rfl | rfl <;> rfl
    · simp only [constants, List.mem_cons, List.not_mem_nil, or_false] at mem
      rcases mem with rfl | rfl | rfl
      · rfl
      · rfl
      · exact (if_pos rfl).trans (if_neg no_infinity)

/-- A word is read as its value. -/
theorem scalar_word {t : Text} {v : Json} (listed : (t, v) ∈ words) (rest : Text) :
    scalar strict (t ++ rest) = .ok (v, rest) := by
  rw [scalar, word?_words listed]

/-- A numeral is read as its value, if it has one. -/
theorem scalar_numeral {t : Text} {n : Numeral} (h : NumeralText t n) {rest : Text}
    (stop : EndsNumeral rest) :
    scalar strict (t ++ rest) = n.value.map fun v => (v, rest) := by
  obtain ⟨no_word, no_constant⟩ := no_word_of_numeralText h rest
  rw [scalar, no_word, no_constant, numeral?_append h stop]

/-- What is read as a word or a numeral is one, and has no more digits than an integer may have. -/
theorem exists_scalar {t rest : Text} {v : Json} (h : scalar strict t = .ok (v, rest))
    (nested : Option (Text → Json → Prop)) :
    ∃ body, ValueWith digitLimit nested body v ∧ t = body ++ rest := by
  rw [scalar] at h
  rcases is_word : word? words t with _ | ⟨⟨word, value⟩, behind⟩
  · rcases is_constant : word? constants t with _ | ⟨⟨name, x⟩, behind⟩
    · rcases is_numeral : numeral? t with _ | ⟨n, behind⟩
      · rw [is_word, is_constant, is_numeral] at h
        cases h
      · rw [is_word, is_constant, is_numeral] at h
        dsimp only at h
        rw [value_eq] at h
        split_ifs at h with long
        · cases h
        · cases h
          obtain ⟨body, numeral, rfl⟩ := exists_numeralText is_numeral
          have short : IsInteger n → n.whole.length ≤ digitLimit := by
            intro integer
            exact Nat.le_of_not_lt fun more => long ⟨integer, more⟩
          exact ⟨body, .number numeral short, rfl⟩
    · rw [is_word, is_constant] at h
      cases h
  · rw [is_word] at h
    cases h
    obtain ⟨listed, rfl⟩ := exists_word is_word
    exact ⟨word, .word listed, rfl⟩

/-! ## Values -/

/-- A digit is no blank. -/
theorem isSpace_of_isDigit {c : CodePoint} (digit : c.isDigit = true) : isSpace c = false := by
  simp only [CodePoint.isDigit, Bool.and_eq_true, decide_eq_true_iff] at digit
  simp only [isSpace, Bool.or_eq_false_iff, beq_eq_false_iff_ne]
  omega

/-- A value begins with a code point that is no white space and closes nothing. -/
theorem opens_valueWith (digits : Nat) (nested : Option (Text → Json → Prop)) :
    Opens (ValueWith digits nested) := by
  intro body v h
  cases h with
  | word listed =>
    simp only [words, List.mem_cons, Prod.mk.injEq, List.not_mem_nil, or_false] at listed
    rcases listed with ⟨rfl, rfl⟩ | ⟨rfl, rfl⟩ | ⟨rfl, rfl⟩ <;>
      exact ⟨_, _, rfl, rfl, by decide⟩
  | number numeral =>
    obtain ⟨d, more, digit, rfl | rfl⟩ := head_of_numeralText numeral
    · exact ⟨d, more, rfl, isSpace_of_isDigit digit, not_closes_of_isDigit digit⟩
    · exact ⟨_, _, rfl, rfl, by decide⟩
  | string is_string =>
    cases is_string with
    | quoted => exact ⟨_, _, rfl, rfl, by decide⟩
  | array | object => exact ⟨_, _, rfl, rfl, by decide⟩

/-- A value does not begin with a blank or with what closes. -/
theorem opens_value (digits levels : Nat) : Opens (Value digits levels) := by
  cases levels <;> exact opens_valueWith digits _

/-- How the first code point of a value decides what is read. -/
theorem valueWith_cons (reader : Option (Step Json)) (c : CodePoint) (t : Text) :
    valueWith strict reader (c :: t) =
      if c = '"' then (string (c :: t) t).map fun found => (.str found.1, found.2)
      else if c = '[' then reader.elim (.error .tooDeep) fun item => array item t
      else if c = '{' then reader.elim (.error .tooDeep) fun item => object item t
      else scalar strict (c :: t) := by
  cases reader <;> rfl

/-- A value that begins like no text, array or object is read as a word or a numeral. -/
theorem valueWith_scalar {reader : Option (Step Json)} {c : CodePoint} (no_quote : c ≠ '"')
    (no_array : c ≠ '[') (no_object : c ≠ '{') (t : Text) :
    valueWith strict reader (c :: t) = scalar strict (c :: t) := by
  rw [valueWith_cons, if_neg no_quote, if_neg no_array, if_neg no_object]

/-- A word is a value wherever a value may stand. -/
theorem valueWith_word {t : Text} {v : Json} (listed : (t, v) ∈ words)
    (reader : Option (Step Json)) (rest : Text) :
    valueWith strict reader (t ++ rest) = .ok (v, rest) := by
  have read := scalar_word listed rest
  simp only [words, List.mem_cons, Prod.mk.injEq, List.not_mem_nil, or_false] at listed
  rcases listed with ⟨rfl, rfl⟩ | ⟨rfl, rfl⟩ | ⟨rfl, rfl⟩ <;>
    exact (valueWith_scalar (by decide) (by decide) (by decide) _).trans read

/-- A numeral is a value wherever a value may stand, if it has one. -/
theorem valueWith_numeral {t : Text} {n : Numeral} (h : NumeralText t n)
    (reader : Option (Step Json)) {rest : Text} (stop : EndsNumeral rest) :
    valueWith strict reader (t ++ rest) = n.value.map fun v => (v, rest) := by
  rw [← scalar_numeral h stop]
  obtain ⟨d, more, digit, rfl | rfl⟩ := head_of_numeralText h
  · exact valueWith_scalar (ne_of_isDigit digit rfl) (ne_of_isDigit digit rfl)
      (ne_of_isDigit digit rfl) _
  · exact valueWith_scalar (by decide) (by decide) (by decide) _

section Values

variable {nested : Option (Text → Json → Prop)} {reader : Option (Step Json)} {fits : Prop}
  {digits : Nat}

/-- The reader takes every value if what it uses inside arrays and objects does. -/
theorem complete_valueWith (short : fits → digits ≤ digitLimit)
    (inside : ∀ value, nested = some value → Opens value ∧
      ((reader = none ∧ ¬ fits) ∨ ∃ item, reader = some item ∧ Complete item value fits)) :
    Complete (valueWith strict reader) (ValueWith digits nested) fits := by
  intro body v rest h delimits
  cases h with
  | word listed => exact .inl (valueWith_word listed reader rest)
  | @number _ n numeral enough =>
    rw [valueWith_numeral numeral reader delimits.endsNumeral, value_eq]
    -- Only an integer with too many digits has no value, and then the limits are passed.
    by_cases long : IsInteger n ∧ digitLimit < n.whole.length
    · have beyond : ¬ fits := by
        intro fit
        have := enough long.1
        have := short fit
        have := long.2
        omega
      rw [if_pos long]
      exact .inr ⟨beyond, _, rfl⟩
    · rw [if_neg long]
      exact .inl rfl
  | @string _ s is_string =>
    obtain ⟨behind, rfl, read⟩ := string_append is_string (body ++ rest) rest
    left
    rw [List.cons_append] at read ⊢
    rw [valueWith_cons, if_pos rfl, read]
    rfl
  | @array value t as opens is_sequence =>
    obtain ⟨begins, ⟨rfl, beyond⟩ | ⟨item, rfl, complete⟩⟩ := inside value opens
    · exact .inr ⟨beyond, .tooDeep, rfl⟩
    · have result := sequence_append complete begins (.inl rfl) .value is_sequence rest
      rw [List.cons_append, List.append_assoc, List.singleton_append, valueWith_cons,
        if_neg (by decide), if_pos rfl]
      rw [Option.elim_some, array_eq]
      exact result.map Json.arr
  | @object value t as opens is_sequence =>
    obtain ⟨begins, ⟨rfl, beyond⟩ | ⟨item, rfl, complete⟩⟩ := inside value opens
    · exact .inr ⟨beyond, .tooDeep, rfl⟩
    · have result := sequence_append (complete_member complete begins) opens_member (.inr rfl)
        .propertyName is_sequence rest
      rw [List.cons_append, List.append_assoc, List.singleton_append, valueWith_cons,
        if_neg (by decide), if_neg (by decide), if_pos rfl]
      rw [Option.elim_some, object_eq]
      exact result.map fun pairs => Json.obj (Members.ofPairs pairs)

/-- What is taken as a value is one if what is taken inside arrays and objects is. -/
theorem sound_valueWith
    (inside : ∀ item, reader = some item → ∃ value, nested = some value ∧ Sound item value) :
    Sound (valueWith strict reader) (ValueWith digitLimit nested) := by
  intro t v rest h
  rcases t with _ | ⟨c, more⟩
  · cases h
  · rw [valueWith_cons] at h
    split_ifs at h with is_quote is_array is_object
    · obtain ⟨s, read, rfl⟩ := exists_read_of_map h
      obtain ⟨behind, is_string, rfl⟩ := exists_string read
      subst is_quote
      exact ⟨_, .string is_string, rfl⟩
    · subst is_array
      rcases reader with _ | item
      · cases h
      · obtain ⟨value, opens, sound⟩ := inside item rfl
        rw [Option.elim_some, array_eq] at h
        obtain ⟨found, read, rfl⟩ := exists_read_of_map h
        obtain ⟨body, is_sequence, rfl⟩ := exists_sequence sound read
        exact ⟨_, .array opens is_sequence, by simp⟩
    · subst is_object
      rcases reader with _ | item
      · cases h
      · obtain ⟨value, opens, sound⟩ := inside item rfl
        rw [Option.elim_some, object_eq] at h
        obtain ⟨found, read, rfl⟩ :=
          exists_read_of_map (f := fun pairs => Json.obj (Members.ofPairs pairs)) h
        obtain ⟨body, is_sequence, rfl⟩ := exists_sequence (sound_member sound) read
        exact ⟨_, .object opens is_sequence, by simp⟩
    · exact exists_scalar h nested

end Values

/-- The limits of the grammar need not be those of the reader: where they are wider, the reader may
stop with a fault, and where they are as narrow, it does not. -/
theorem complete_value (digits levels limit : Nat) :
    Complete (value strict limit) (Value digits levels) (levels ≤ limit ∧ digits ≤ digitLimit) := by
  induction levels generalizing limit with
  | zero => cases limit <;> exact complete_valueWith And.right nofun
  | succ levels ih =>
    cases limit with
    | zero =>
      refine complete_valueWith And.right ?_
      rintro _ ⟨⟩
      exact ⟨opens_value digits levels, .inl ⟨rfl, by omega⟩⟩
    | succ limit =>
      refine complete_valueWith And.right ?_
      rintro _ ⟨⟩
      refine ⟨opens_value digits levels, .inr ⟨_, rfl, ?_⟩⟩
      rw [Nat.add_le_add_iff_right]
      exact ih limit

/-- What is read as a value is one within the limits. -/
theorem sound_value (levels : Nat) : Sound (value strict levels) (Value digitLimit levels) := by
  induction levels with
  | zero => exact sound_valueWith nofun
  | succ levels ih =>
    refine sound_valueWith ?_
    rintro _ ⟨⟩
    exact ⟨_, rfl, ih⟩

/-! ## Documents -/

/-- A sentence of the grammar is read as its value. -/
theorem document_of_sentence {t : Text} {v : Json}
    (h : Sentence digitLimit strict.nestingLimit t v) : document strict t = .ok v := by
  obtain ⟨space, is_value, space'⟩ := h
  rename_i before body after
  have delimits : Delimits after := by
    intro c mem
    exact .inl (isSpace_iff.mpr (space' c (List.mem_of_mem_head? mem)))
  have all_read : skipSpace after = [] := by
    rw [← List.append_nil after, skipSpace_append space']
    rfl
  rw [document, (opens_value _ _).skipSpace_eq space is_value]
  rcases complete_value _ _ strict.nestingLimit is_value delimits with read | ⟨beyond, -⟩
  · rw [read]
    dsimp only
    rw [all_read]
  · exact absurd ⟨le_rfl, le_rfl⟩ beyond

/-- What a text is read as is read off behind its leading white space, up to white space. -/
theorem exists_read_of_document {t : Text} {v : Json} (h : document strict t = .ok v) :
    ∃ tail, value strict strict.nestingLimit (skipSpace t) = .ok (v, tail) ∧
      skipSpace tail = [] := by
  rw [document] at h
  rcases read : value strict strict.nestingLimit (skipSpace t) with fault | ⟨w, tail⟩
  · rw [read] at h
    cases h
  · rw [read] at h
    dsimp only at h
    rcases last : skipSpace tail with _ | ⟨c, behind⟩
    · rw [last] at h
      cases h
      exact ⟨tail, rfl, last⟩
    · rw [last] at h
      cases h

/-- Where all is skipped, all is blank. -/
theorem isSpace_of_skipSpace_eq_nil {t : Text} (h : skipSpace t = []) : IsSpace t := by
  obtain ⟨space, is_space, split, -⟩ := exists_space t
  rw [h, List.append_nil] at split
  rwa [split]

/-- What is read is a sentence of the grammar. -/
theorem sentence_of_document {t : Text} {v : Json} (h : document strict t = .ok v) :
    Sentence digitLimit strict.nestingLimit t v := by
  obtain ⟨after, read, last⟩ := exists_read_of_document h
  obtain ⟨body, is_value, t_eq⟩ := sound_value _ read
  obtain ⟨before, space, split, -⟩ := exists_space t
  rw [split, t_eq]
  exact .spaced space is_value (isSpace_of_skipSpace_eq_nil last)

/-- The strict reader accepts exactly the sentences of the grammar within its limits, each with what
it stands for. -/
theorem strictDocument_eq_ok_iff (t : Text) (v : Json) :
    strictDocument t = .ok v ↔ Sentence digitLimit strict.nestingLimit t v := by
  rw [strictDocument]
  split_ifs with mark
  · refine ⟨nofun, fun h => ?_⟩
    -- No value begins with the mark, so no sentence does.
    obtain ⟨rest, rfl⟩ : ∃ rest, t = Text.byteOrderMark :: rest := by
      rcases t with _ | ⟨c, rest⟩
      · cases mark
      · cases mark
        exact ⟨rest, rfl⟩
    cases document_of_sentence h
  · exact ⟨sentence_of_document, document_of_sentence⟩

end Rulebook.Json.Grammar
