import Rulebook.CommandLine.FilePath
import Mathlib

/-!
# Paths in normal form

Every text is read as a path in normal form, and a path in normal form is read back from its own text
(`FilePath.ofText_text`). So a path in normal form and its text say the same, and two texts lead to one
path exactly if their paths are written alike.

The names between the slashes come back because none of them holds a slash; the root comes back because
the first name does not begin with one.
-/

set_option autoImplicit false

namespace Rulebook

namespace Text

variable {c : CodePoint} {piece t : Text}

/-- There is at least one piece, even of no text. -/
theorem splitOn_ne_nil (c : CodePoint) (t : Text) : splitOn c t ≠ [] := by
  cases t with
  | nil => simp [splitOn]
  | cons x rest =>
    rw [splitOn]
    split
    · simp
    · split <;> simp

/-- A separator in front ends an empty piece. -/
theorem splitOn_cons_self (c : CodePoint) (t : Text) : splitOn c (c :: t) = [] :: splitOn c t := by
  rw [splitOn, if_pos rfl]

/-- Any other code point in front belongs to the first piece. -/
theorem splitOn_cons_of_ne {x : CodePoint} (other : x ≠ c) {pieces : List Text}
    (h : splitOn c t = piece :: pieces) : splitOn c (x :: t) = (x :: piece) :: pieces := by
  rw [splitOn, if_neg other, h]

/-- The separator is in none of the pieces. -/
theorem not_mem_of_mem_splitOn (h : piece ∈ splitOn c t) : c ∉ piece := by
  induction t generalizing piece with
  | nil =>
    rw [List.mem_singleton.mp h]
    exact List.not_mem_nil
  | cons x rest ih =>
    by_cases same : x = c
    · rw [same, splitOn_cons_self] at h
      rcases List.mem_cons.mp h with rfl | later
      · exact List.not_mem_nil
      · exact ih later
    · obtain ⟨first, pieces, split⟩ := List.exists_cons_of_ne_nil (splitOn_ne_nil c rest)
      rw [splitOn_cons_of_ne same split] at h
      rw [split] at ih
      rcases List.mem_cons.mp h with rfl | later
      · intro mem
        rcases List.mem_cons.mp mem with rfl | inside
        · exact same rfl
        · exact ih List.mem_cons_self inside
      · exact ih (List.mem_cons_of_mem _ later)

/-- A text without the separator is its only piece. -/
theorem splitOn_of_not_mem (h : c ∉ piece) : splitOn c piece = [piece] := by
  induction piece with
  | nil => rfl
  | cons x rest ih =>
    rw [List.mem_cons, not_or] at h
    exact splitOn_cons_of_ne (Ne.symm h.1) (ih h.2)

/-- Up to the first separator a text is one piece, and what follows is split by itself. -/
theorem splitOn_append_cons (h : c ∉ piece) (t : Text) :
    splitOn c (piece ++ c :: t) = piece :: splitOn c t := by
  induction piece with
  | nil => exact splitOn_cons_self c t
  | cons x rest ih =>
    rw [List.mem_cons, not_or] at h
    exact splitOn_cons_of_ne (Ne.symm h.1) (ih h.2)

/-- Pieces without the separator are what their joined text is split into. -/
theorem splitOn_join {pieces : List Text} (present : pieces ≠ [])
    (h : ∀ piece ∈ pieces, c ∉ piece) : splitOn c (join [c] pieces) = pieces := by
  induction pieces with
  | nil => exact absurd rfl present
  | cons piece rest ih =>
    rw [List.forall_mem_cons] at h
    cases rest with
    | nil => exact splitOn_of_not_mem h.1
    | cons next later =>
      have others : splitOn c (join [c] (next :: later)) = next :: later := ih (by simp) h.2
      rw [join, List.append_assoc, List.singleton_append, splitOn_append_cons h.1, others]
      simp

end Text

namespace FilePath

/-- Whether a path has one of the roots and names that mean something. -/
structure IsNormal (p : FilePath) : Prop where
  root : p.root = [] ∨ p.root = "/" ∨ p.root = "//"
  present : ∀ name ∈ p.names, name ≠ []
  moving : ∀ name ∈ p.names, name ≠ "."
  whole : ∀ name ∈ p.names, ('/' : CodePoint) ∉ name

variable {p q : FilePath} {names : List Text}

/-- The names that a text leads along. -/
def namesOf (t : Text) : List Text := (t.splitOn '/').filter fun name => name ≠ [] ∧ name ≠ "."

/-- A path that is read from a text is in normal form. -/
theorem isNormal_ofText (t : Text) : (ofText t).IsNormal := by
  have names : ∀ name ∈ namesOf t, name ∈ t.splitOn '/' ∧ name ≠ [] ∧ name ≠ "." := by
    intro name mem
    simpa [namesOf] using mem
  constructor
  · dsimp only [ofText]
    split
    · exact Or.inl rfl
    · split
      · exact Or.inr (Or.inr rfl)
      · exact Or.inr (Or.inl rfl)
  · exact fun name mem => (names name mem).2.1
  · exact fun name mem => (names name mem).2.2
  · exact fun name mem => Text.not_mem_of_mem_splitOn (names name mem).1

/-- A slash at the beginning adds no name. -/
theorem namesOf_slash (t : Text) : namesOf (('/' : CodePoint) :: t) = namesOf t := by
  unfold namesOf
  rw [Text.splitOn_cons_self]
  simp

/-- A path in normal form has its names back from the text they are joined to. -/
theorem namesOf_join (h : p.IsNormal) : namesOf (Text.join "/" p.names) = p.names := by
  by_cases none : p.names = []
  · rw [none]
    rfl
  · unfold namesOf
    have split : Text.splitOn '/' (Text.join "/" p.names) = p.names :=
      Text.splitOn_join none h.whole
    rw [split, List.filter_eq_self]
    intro name mem
    simpa using ⟨h.present name mem, h.moving name mem⟩

/-- The names of a path do not begin with a slash. -/
theorem takeWhile_join (h : p.IsNormal) :
    (Text.join "/" p.names).takeWhile (· = ('/' : CodePoint)) = [] := by
  cases names : p.names with
  | nil => rfl
  | cons first rest =>
    have mem : first ∈ p.names := by
      rw [names]
      exact List.mem_cons_self
    obtain ⟨c, behind, rfl⟩ := List.exists_cons_of_ne_nil (h.present first mem)
    have other : c ≠ ('/' : CodePoint) := by
      intro same
      exact h.whole _ mem (by simp [same])
    cases rest with
    | nil => simp [Text.join, other]
    | cons next later => simp [Text.join, other]

/-- A root in front of names is read back with them. -/
theorem ofText_root (h : p.IsNormal) : ofText (p.root ++ Text.join "/" p.names) = p := by
  have slashes : p.root.all (· = ('/' : CodePoint)) = true := by
    rcases h.root with root | root | root <;> rw [root] <;> rfl
  have begins : (p.root ++ Text.join "/" p.names).takeWhile (· = ('/' : CodePoint)) = p.root := by
    rw [List.takeWhile_append_of_pos (List.all_eq_true.mp slashes), takeWhile_join h,
      List.append_nil]
  have root : (ofText (p.root ++ Text.join "/" p.names)).root = p.root := by
    dsimp only [ofText]
    rw [begins]
    rcases h.root with root | root | root <;> rw [root] <;> rfl
  have along : (ofText (p.root ++ Text.join "/" p.names)).names = p.names := by
    have inside := namesOf_join h
    change namesOf (p.root ++ Text.join "/" p.names) = p.names
    rcases h.root with root | root | root <;> rw [root]
    · exact inside
    · exact (namesOf_slash _).trans inside
    · exact (namesOf_slash _).trans ((namesOf_slash _).trans inside)
  generalize ofText (p.root ++ Text.join "/" p.names) = q at root along ⊢
  cases p
  cases q
  exact congrArg₂ FilePath.mk root along

/-- A path in normal form is read back from its text. -/
theorem ofText_text (h : p.IsNormal) : ofText p.text = p := by
  have read := ofText_root h
  unfold text
  split
  · next empty =>
    rw [empty] at read
    rw [← read]
    rfl
  · exact read

/-- Paths in normal form are told apart by their texts. -/
theorem text_injective (hp : p.IsNormal) (hq : q.IsNormal) (same : p.text = q.text) : p = q := by
  rw [← ofText_text hp, same, ofText_text hq]

end FilePath

end Rulebook
