import Rulebook.Service.Host
import Rulebook.Proofs.Lists
import Rulebook.Proofs.Text.Ascii
import Mathlib

/-!
# Names of hosts

A name is a row of labels, and what a label may hold is told by tables of letters and marks. Two things
hold of names whatever the tables say. Writing a label takes at least one code point for each of its own,
so labels have at most 63 of them and names at most 253 (`length_le_of_isName`, `length_le_of_isHost`).
And no table begins below the end of ASCII, so a label of ASCII follows the old rule: letters, digits and
hyphens, with a hyphen neither first nor last nor at the third and fourth place together
(`isWellFormed_iff_of_isAscii`).
-/

set_option autoImplicit false

namespace Rulebook

/-! ## Lengths -/

namespace Punycode

/-- The digits of a number are at least one. -/
theorem digits_ne_nil (bias fuel place n : Nat) : digits bias fuel place n ≠ [] := by
  cases fuel with
  | zero => exact List.cons_ne_nil _ _
  | succ fuel =>
    unfold digits
    dsimp only
    split <;> exact List.cons_ne_nil _ _

/-- At a code point that the count runs for, a digit is written. -/
theorem length_pass (number : Nat) (w : Writer) (c : CodePoint) :
    w.length + (if c.val = number then 1 else 0) ≤ (w.pass number c).length := by
  have some_digit := List.length_pos_iff.mpr (digits_ne_nil w.bias (w.delta.log2 + 1) 0 w.delta)
  unfold Writer.pass
  by_cases below : c.val < number
  · rw [if_pos below, if_neg below.ne]
    exact Nat.le_refl _
  · rw [if_neg below]
    split
    · dsimp only
      omega
    · exact Nat.le_refl _

/-- A pass over a text writes a digit for each code point that the count runs for. -/
theorem length_foldl_pass (number : Nat) (t : Text) (w : Writer) :
    w.length + t.countP (fun c => c.val = number) ≤ (t.foldl (Writer.pass number) w).length := by
  induction t generalizing w with
  | nil => exact Nat.le_refl _
  | cons c rest ih =>
    have first := length_pass number w c
    have later := ih (w.pass number c)
    rw [List.foldl_cons, List.countP_cons]
    simp only [decide_eq_true_eq]
    omega

/-- The code points with one of several numbers are those with the first and those with another one. -/
theorem countP_mem_cons (t : Text) {next : Nat} {rest : List Nat} (new : next ∉ rest) :
    t.countP (fun c => c.val ∈ next :: rest) =
      t.countP (fun c => c.val = next) + t.countP (fun c => c.val ∈ rest) := by
  induction t with
  | nil => rfl
  | cons c behind ih =>
    rw [List.countP_cons, List.countP_cons, List.countP_cons, ih]
    by_cases same : c.val = next
    · simp only [same, List.mem_cons_self, decide_true, if_true, new, decide_false, Bool.false_eq_true,
        if_false]
      omega
    · simp only [List.mem_cons, same, false_or, decide_false, Bool.false_eq_true, if_false]
      omega

/-- A run over numbers writes a digit for each code point with one of them. -/
theorem length_run (t : Text) (w : Writer) (number : Nat) {numbers : List Nat}
    (distinct : numbers.Nodup) :
    w.length + t.countP (fun c => c.val ∈ numbers) ≤ (w.run t number numbers).length := by
  induction numbers generalizing w number with
  | nil => simp [Writer.run]
  | cons next rest ih =>
    obtain ⟨new, distinct⟩ := List.nodup_cons.mp distinct
    rw [countP_mem_cons t new, Writer.run]
    -- What stands before the pass has no part in the length.
    have pass := length_foldl_pass next t { w with delta := w.delta + (next - number) * (w.count + 1) }
    generalize t.foldl (Writer.pass next) _ = passed at pass ⊢
    have later := ih { passed with delta := passed.delta + 1 } (next + 1) distinct
    dsimp only at pass later
    omega

/-- Writing a text takes at least one code point for each of its own. -/
theorem le_length (t : Text) : t.length ≤ length t := by
  let others := ((t.map Fin.val).filter (firstNumber ≤ ·)).mergeSort.eraseDups
  let plain := t.countP fun c => c.val < firstNumber
  have numbered : t.countP (fun c => c.val ∈ others) = t.countP fun c => ¬ c.val < firstNumber := by
    refine List.countP_congr fun c mem => ?_
    simp only [others, decide_eq_true_eq, List.mem_eraseDups, List.mem_mergeSort, List.mem_filter,
      List.mem_map]
    constructor
    · rintro ⟨-, beyond⟩
      omega
    · intro beyond
      exact ⟨⟨c, mem, rfl⟩, by omega⟩
  have parts : t.length = plain + t.countP (fun c => ¬ c.val < firstNumber) := by
    rw [List.length_eq_countP_add_countP fun c : CodePoint => decide (c.val < firstNumber)]
    simp only [plain, decide_eq_true_eq]
  let start : Writer := {
    length := if plain = 0 then 0 else plain + 1, delta := 0, bias := firstBias, count := plain
    isFirst := true }
  have enough : plain ≤ start.length := by
    dsimp only [start]
    split <;> omega
  have run : start.length + t.countP (fun c => c.val ∈ others) ≤
      (start.run t firstNumber others).length := length_run t start firstNumber (nodup_eraseDups _)
  have whole : length t = (start.run t firstNumber others).length := rfl
  omega

end Punycode

namespace Label

/-- A label has at most as many code points as its writing, and that has at most 63. -/
theorem length_le_of_writtenLength? {label : Text} {n : Nat} (h : writtenLength? label = some n) :
    label.length ≤ n ∧ n ≤ lengthLimit := by
  have written := Punycode.le_length label
  unfold writtenLength? at h
  dsimp only at h
  rw [Option.ite_none_right_eq_some, Option.some.injEq] at h
  obtain ⟨⟨-, short⟩, rfl⟩ := h
  refine ⟨?_, short⟩
  split <;> omega

end Label

namespace Host

/-- Adding numbers up from some number on adds their sum to it. -/
theorem foldl_add (numbers : List Nat) (n : Nat) : numbers.foldl (· + ·) n = n + numbers.sum := by
  induction numbers generalizing n with
  | nil => rfl
  | cons k rest ih =>
    rw [List.foldl_cons, ih, List.sum_cons]
    omega

/-- Labels that can be written are short, and their writings are as long as they are together at least. -/
theorem length_le_of_mapM {labels : List Text} {lengths : List Nat}
    (h : labels.mapM Label.writtenLength? = some lengths) :
    (∀ label ∈ labels, label.length ≤ Label.lengthLimit) ∧ lengths.length = labels.length ∧
      (labels.map List.length).sum ≤ lengths.sum := by
  induction labels generalizing lengths with
  | nil =>
    cases h
    exact ⟨nofun, rfl, Nat.le_refl _⟩
  | cons label rest ih =>
    rw [List.mapM_cons] at h
    cases first : Label.writtenLength? label with
    | none => simp [first] at h
    | some n =>
      cases others : rest.mapM Label.writtenLength? with
      | none => simp [first, others] at h
      | some numbers =>
        simp only [first, others, Option.bind_eq_bind, Option.bind_some, Option.pure_def,
          Option.some.injEq] at h
        subst h
        obtain ⟨short, within⟩ := Label.length_le_of_writtenLength? first
        obtain ⟨all, same, sum⟩ := ih others
        refine ⟨List.forall_mem_cons.mpr ⟨short.trans within, all⟩, by simp [same], ?_⟩
        rw [List.map_cons, List.sum_cons, List.sum_cons]
        omega

/-- The labels of a name have at most 63 code points each, and they have at most 253 together, the dots
between them being counted. -/
theorem length_le_of_isName {t : Text} (h : isName t = true) :
    (∀ label ∈ labels t, label.length ≤ Label.lengthLimit) ∧
      ((labels t).map List.length).sum + ((labels t).length - 1) ≤ nameLimit := by
  unfold isName at h
  split at h
  · next lengths written =>
    obtain ⟨short, count, sum⟩ := length_le_of_mapM written
    have limit := of_decide_eq_true h
    rw [foldl_add, count] at limit
    exact ⟨short, by omega⟩
  · cases h

/-- A host that is neither four numbers nor in brackets is of ASCII, or it is a name and keeps to its
lengths. -/
theorem length_le_of_isHost {t : Text} (h : isHost t = true) (words : looksNumeric t = false)
    (bare : unbracketed? t = none) :
    t.IsAscii ∨ (∀ label ∈ labels t, label.length ≤ Label.lengthLimit) ∧
      ((labels t).map List.length).sum + ((labels t).length - 1) ≤ nameLimit := by
  unfold isHost at h
  split at h
  · next empty =>
    rw [empty]
    exact Or.inl Text.isAscii_nil
  · simp only [words, Bool.false_eq_true, if_false, bare, Bool.or_eq_true] at h
    rcases h with ascii | name
    · exact Or.inl fun c mem => of_decide_eq_true (List.all_eq_true.mp ascii c mem)
    · exact Or.inr (length_le_of_isName name)

end Host

/-! ## ASCII -/

namespace CodePoint

variable {c : CodePoint}

/-- No code point of ASCII lies in ranges that begin beyond it. -/
theorem isIn_eq_false {ranges : List (Nat × Nat)} (beyond : ∀ range ∈ ranges, 0x80 ≤ range.1)
    (ascii : c.val < 0x80) : c.isIn ranges = false := by
  refine List.any_eq_false.mpr fun range mem inside => ?_
  have first := beyond range mem
  simp only [Bool.and_eq_true, decide_eq_true_eq] at inside
  omega

/-- No code point of ASCII is a mark. -/
theorem isMark_of_ascii (ascii : c.val < 0x80) : c.isMark = false :=
  isIn_eq_false (by decide +kernel) ascii

/-- A code point of ASCII keeps its place. -/
theorem combiningClass_of_ascii (ascii : c.val < 0x80) : c.combiningClass = 0 := by
  have beyond : ∀ range ∈ combiningRanges, 0x80 ≤ range.1 := by decide +kernel
  have absent : combiningRanges.find? (fun range => range.1 ≤ c.val && c.val ≤ range.2.1) = none := by
    refine List.find?_eq_none.mpr fun range mem inside => ?_
    have first := beyond range mem
    simp only [Bool.and_eq_true, decide_eq_true_eq] at inside
    omega
  rw [combiningClass]
  simp only [absent]

end CodePoint

namespace Text

/-- No composed code point is of ASCII, nor is the second one that it stands for. -/
theorem composites_beyond : ∀ entry ∈ composites, 0x80 ≤ entry.1 ∧ 0x80 ≤ entry.2.2 := by
  decide +kernel

/-- A code point of ASCII has no parts but itself. -/
theorem parts_of_ascii {c : CodePoint} (ascii : c.val < 0x80) (fuel : Nat) : parts fuel c = [c] := by
  cases fuel with
  | zero => rfl
  | succ fuel =>
    have absent : composites.lookup c.val = none := by
      refine List.lookup_eq_none_iff.mpr fun entry mem => ?_
      have beyond := (composites_beyond entry mem).1
      simp only [bne_iff_ne, ne_eq]
      omega
    rw [parts, absent]

/-- A text of ASCII is its own decomposition. -/
theorem decompose_of_isAscii {t : Text} (ascii : t.IsAscii) : decompose t = t := by
  rw [decompose]
  conv_rhs => rw [← List.flatMap_singleton' t]
  exact List.flatMap_congr fun c mem => parts_of_ascii (ascii c mem) 3

/-- A code point of ASCII settles behind whatever stands before it. -/
theorem settle_of_ascii {c : CodePoint} (ascii : c.val < 0x80) (settled : Text) :
    settle c settled = c :: settled := by
  cases settled with
  | nil => rfl
  | cons d rest =>
    rw [settle, if_neg]
    rintro ⟨mark, -⟩
    exact mark (CodePoint.combiningClass_of_ascii ascii)

/-- A text of ASCII is settled in its own order. -/
theorem foldl_settle_of_isAscii {t : Text} (ascii : t.IsAscii) (settled : Text) :
    t.foldl (fun settled c => settle c settled) settled = t.reverse ++ settled := by
  induction t generalizing settled with
  | nil => rfl
  | cons c rest ih =>
    rw [List.foldl_cons, settle_of_ascii (ascii c List.mem_cons_self),
      ih fun d mem => ascii d (List.mem_cons_of_mem c mem), List.reverse_cons, List.append_assoc]
    rfl

/-- No code point of ASCII makes a composite with one before it. -/
theorem composite?_of_ascii (letter : CodePoint) {c : CodePoint} (ascii : c.val < 0x80) :
    composite? letter c = none := by
  have absent : composites.find? (fun entry => entry.2.1 = letter.val && entry.2.2 = c.val) = none := by
    refine List.find?_eq_none.mpr fun entry mem same => ?_
    have beyond := (composites_beyond entry mem).2
    simp only [Bool.and_eq_true, decide_eq_true_eq] at same
    omega
  exact congrArg _ absent

/-- Nothing in a text of ASCII is composed with a letter before it. -/
theorem composeBehind_of_isAscii (letter : CodePoint) {t : Text} (ascii : t.IsAscii) :
    composeBehind letter [] t = letter :: t := by
  induction t generalizing letter with
  | nil => rfl
  | cons c rest ih =>
    have first := ascii c List.mem_cons_self
    have others : IsAscii rest := fun d mem => ascii d (List.mem_cons_of_mem c mem)
    rw [composeBehind, composite?_of_ascii letter first, ite_self]
    dsimp only
    rw [if_pos (CodePoint.combiningClass_of_ascii first), ih c others]
    rfl

/-- A text of ASCII is composed. -/
theorem isComposed_of_isAscii {t : Text} (ascii : t.IsAscii) : t.isComposed = true := by
  have ordered : orderMarks t = t := by
    rw [orderMarks, foldl_settle_of_isAscii ascii, List.append_nil, List.reverse_reverse]
  refine decide_eq_true ?_
  rw [compose, decompose_of_isAscii ascii, ordered]
  cases t with
  | nil => rfl
  | cons c rest => exact composeBehind_of_isAscii c fun d mem => ascii d (List.mem_cons_of_mem c mem)

end Text

namespace Label

variable {c : CodePoint}

/-- What is no letter, digit or hyphen of ASCII stands nowhere in a label. -/
theorem mayStand_of_ascii (ascii : c.val < 0x80) (before behind : Text) :
    mayStand before c behind = false := by
  have other {n : Nat} (beyond : 0x80 ≤ n) : c.val ≠ n := by omega
  have no_digit : isArabicDigit c = false ∧ isPersianDigit c = false := by
    simp only [isArabicDigit, isPersianDigit, Bool.and_eq_false_iff, decide_eq_false_iff_not]
    omega
  unfold mayStand
  dsimp only
  rw [if_neg (other (by decide)), if_neg (other (by decide)), if_neg (other (by decide)),
    if_neg (other (by decide)), if_neg (by omega), if_neg (other (by decide)), no_digit.1, no_digit.2]
  rfl

/-- In ASCII it takes letters only for everything to be in place. -/
theorem areInPlace_of_isAscii {t : Text} (ascii : t.IsAscii) (before : Text) :
    areInPlace before t = t.all isLetter := by
  induction t generalizing before with
  | nil => rfl
  | cons c rest ih =>
    rw [areInPlace, List.all_cons, mayStand_of_ascii (ascii c List.mem_cons_self), Bool.or_false,
      ih fun d mem => ascii d (List.mem_cons_of_mem c mem)]

/-- ASCII has one direction. -/
theorem hasOneDirection_of_isAscii {t : Text} (ascii : t.IsAscii) : hasOneDirection t = true := by
  have none_right_to_left : (t.any fun c => isRightToLeft c || isEasternDigit c) = false := by
    refine List.any_eq_false.mpr fun c mem => ?_
    have low := ascii c mem
    have letter : isRightToLeft c = false := CodePoint.isIn_eq_false (by decide) low
    have digit : isEasternDigit c = false := by
      simp only [isEasternDigit, isArabicDigit, Bool.or_eq_false_iff, Bool.and_eq_false_iff,
        decide_eq_false_iff_not]
      omega
    simp [letter, digit]
  rw [hasOneDirection, none_right_to_left]
  rfl

/-- A text of ASCII is a label exactly if it is one of lower-case letters, digits and hyphens with a hyphen
neither first nor last nor third and fourth: no table has a say in it. -/
theorem isWellFormed_iff_of_isAscii {label : Text} (ascii : label.IsAscii) :
    isWellFormed label = true ↔ label ≠ [] ∧ hasPlainHyphens label = true ∧
      ∀ c ∈ label, c.isDigit = true ∨ c = '-' ∨ 0x61 ≤ c.val ∧ c.val ≤ 0x7A := by
  have begins : (!label.head?.all CodePoint.isMark) = true ↔ label ≠ [] := by
    cases label with
    | nil => simp
    | cons c rest => simp [CodePoint.isMark_of_ascii (ascii c List.mem_cons_self)]
  have letters : label.all isLetter = true ↔
      ∀ c ∈ label, c.isDigit = true ∨ c = '-' ∨ 0x61 ≤ c.val ∧ c.val ≤ 0x7A := by
    rw [List.all_eq_true]
    refine forall₂_congr fun c mem => ?_
    rw [isLetter, if_pos (ascii c mem)]
    simp only [Bool.or_eq_true, Bool.and_eq_true, decide_eq_true_eq, or_assoc]
  simp only [isWellFormed, Bool.and_eq_true, begins, areInPlace_of_isAscii ascii, letters,
    Text.isComposed_of_isAscii ascii, hasOneDirection_of_isAscii ascii, and_true, and_assoc]

/-- A label of ASCII that does not begin like a writing is written as it is. -/
theorem writtenLength?_of_isAscii {label : Text} (ascii : label.IsAscii)
    (unmarked : Text.dropPrefix? writingMark label = none) :
    writtenLength? label =
      if isWellFormed label = true ∧ label.length ≤ lengthLimit then some label.length else none := by
  have plain : label.all (fun c => c.val < Punycode.firstNumber) = true :=
    List.all_eq_true.mpr fun c mem => decide_eq_true (ascii c mem)
  unfold writtenLength?
  simp only [plain, if_true, unmarked]

end Label

namespace Text

/-- A text of ASCII has no letters but those of ASCII in lower case either. -/
theorem toLower_of_isAscii {t : Text} (ascii : t.IsAscii) : t.toLower = t.toLowerAscii := by
  have letter : ∀ c ∈ t, (if c.val = 0x130 then ['i', CodePoint.ofNat 0x307] else [c.toLower] : Text) =
      [c.toLowerAscii] := by
    intro c mem
    have low := ascii c mem
    rw [if_neg (by omega), CodePoint.toLower, if_pos low]
  rw [toLower, List.flatMap_congr letter, toLowerAscii, List.map_eq_flatMap]

/-- The lower case of ASCII is ASCII. -/
theorem isAscii_toLowerAscii {t : Text} (ascii : t.IsAscii) : t.toLowerAscii.IsAscii := by
  have letter : ∀ n < 0x80, (CodePoint.ofNat n).toLowerAscii.val < 0x80 := by decide
  intro c mem
  obtain ⟨d, there, rfl⟩ := List.mem_map.mp mem
  have low := letter d.val (ascii d there)
  rwa [show CodePoint.ofNat d.val = d from Fin.ext (Nat.mod_eq_of_lt d.isLt)] at low

/-- A piece holds nothing that the text does not hold. -/
theorem mem_of_mem_splitOn {c x : CodePoint} {t piece : Text} (mem : piece ∈ t.splitOn c)
    (there : x ∈ piece) : x ∈ t := by
  induction t generalizing piece with
  | nil =>
    rw [splitOn, List.mem_singleton] at mem
    rw [mem] at there
    cases there
  | cons d rest ih =>
    rw [splitOn] at mem
    split at mem
    · rcases List.mem_cons.mp mem with rfl | later
      · cases there
      · exact List.mem_cons_of_mem d (ih later there)
    · split at mem
      · rw [List.mem_singleton.mp mem] at there
        rw [List.mem_singleton.mp there]
        exact List.mem_cons_self
      · next first pieces split =>
        rcases List.mem_cons.mp mem with rfl | later
        · rcases List.mem_cons.mp there with rfl | behind
          · exact List.mem_cons_self
          · exact List.mem_cons_of_mem d (ih (split ▸ List.mem_cons_self) behind)
        · exact List.mem_cons_of_mem d (ih (split ▸ List.mem_cons_of_mem first later) there)

end Text

namespace Host

/-- The labels of a name of ASCII are of ASCII. -/
theorem isAscii_of_mem_labels {t label : Text} (ascii : t.IsAscii) (mem : label ∈ labels t) :
    label.IsAscii := by
  intro c there
  have piece : label ∈ Text.splitOn '.' (t.toLower.map fun c => if isDot c then '.' else c) := by
    unfold labels at mem
    dsimp only at mem
    split at mem
    · exact List.mem_of_mem_dropLast mem
    · exact mem
  obtain ⟨d, listed, rfl⟩ := List.mem_map.mp (Text.mem_of_mem_splitOn piece there)
  rw [Text.toLower_of_isAscii ascii] at listed
  split
  · decide
  · exact Text.isAscii_toLowerAscii ascii d listed

/-- Labels of ASCII that do not begin like writings are written as they are, if each is well-formed and none
is too long. -/
theorem mapM_writtenLength?_of_isAscii {names : List Text} (ascii : ∀ label ∈ names, label.IsAscii)
    (unmarked : ∀ label ∈ names, Text.dropPrefix? Label.writingMark label = none) :
    names.mapM Label.writtenLength? =
      if ∀ label ∈ names, Label.isWellFormed label = true ∧ label.length ≤ Label.lengthLimit then
        some (names.map List.length)
      else none := by
  induction names with
  | nil => rfl
  | cons first rest ih =>
    have written := Label.writtenLength?_of_isAscii (ascii first List.mem_cons_self)
      (unmarked first List.mem_cons_self)
    have later := ih (fun label mem => ascii label (List.mem_cons_of_mem first mem))
      (fun label mem => unmarked label (List.mem_cons_of_mem first mem))
    have all_iff : (∀ label ∈ first :: rest,
          Label.isWellFormed label = true ∧ label.length ≤ Label.lengthLimit) ↔
        (Label.isWellFormed first = true ∧ first.length ≤ Label.lengthLimit) ∧
          ∀ label ∈ rest, Label.isWellFormed label = true ∧ label.length ≤ Label.lengthLimit :=
      List.forall_mem_cons
    rw [List.mapM_cons, written, later]
    by_cases good : Label.isWellFormed first = true ∧ first.length ≤ Label.lengthLimit
    · rw [if_pos good]
      by_cases others : ∀ label ∈ rest, Label.isWellFormed label = true ∧ label.length ≤ Label.lengthLimit
      · rw [if_pos others, if_pos (all_iff.mpr ⟨good, others⟩)]
        rfl
      · rw [if_neg others, if_neg fun all => others (all_iff.mp all).2]
        rfl
    · rw [if_neg good, if_neg fun all => good (all_iff.mp all).1]
      rfl

/-- A text of ASCII, none of whose labels begins like a writing, is a name exactly if each label is one of
at most 63 letters, digits and hyphens, and they are at most 253 with the dots between them. -/
theorem isName_iff_of_isAscii {t : Text} (ascii : t.IsAscii)
    (unmarked : ∀ label ∈ labels t, Text.dropPrefix? Label.writingMark label = none) :
    isName t = true ↔
      (∀ label ∈ labels t, Label.isWellFormed label = true ∧ label.length ≤ Label.lengthLimit) ∧
        ((labels t).map List.length).sum + ((labels t).length - 1) ≤ nameLimit := by
  rw [isName, mapM_writtenLength?_of_isAscii (fun label mem => isAscii_of_mem_labels ascii mem) unmarked]
  by_cases good : ∀ label ∈ labels t, Label.isWellFormed label = true ∧ label.length ≤ Label.lengthLimit
  · rw [if_pos good, and_iff_right good]
    dsimp only
    rw [foldl_add, List.length_map, Nat.add_comm, decide_eq_true_eq]
  · rw [if_neg good]
    simp only [Bool.false_eq_true, false_iff, not_and]
    exact fun all => absurd all good

end Host

end Rulebook
