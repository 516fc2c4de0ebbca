import Rulebook.Json
import Mathlib

/-!
# Looking up members and the size of what is found

Members are looked up by their keys, so a value that a look-up finds is one of the members; it is
smaller than their object and nests less deep. Looking up several keys, no key twice, finds values
that together are no larger than the members: this is what lets a walk over an object charge its work
to the values in it.
-/

set_option autoImplicit false

namespace Rulebook

/-- What a look-up in a table finds is an entry. -/
theorem mem_of_lookup {α : Type} {table : List (Text × α)} {key : Text} {a : α}
    (h : table.lookup key = some a) : (key, a) ∈ table := by
  obtain ⟨before, after, rfl, -⟩ := List.lookup_eq_some_iff.mp h
  simp

/-- Where no key is repeated, a look-up in a table finds every entry. -/
theorem lookup_of_mem {α : Type} {table : List (Text × α)} (distinct : (table.map Prod.fst).Nodup)
    {key : Text} {a : α} (h : (key, a) ∈ table) : table.lookup key = some a := by
  obtain ⟨before, after, rfl⟩ := List.append_of_mem h
  refine List.lookup_eq_some_iff.mpr ⟨before, after, rfl, fun entry mem => ?_⟩
  rw [List.map_append, List.nodup_append] at distinct
  have other : entry.1 ≠ key := by
    intro same
    exact distinct.2.2 _ (List.mem_map_of_mem mem) key (by simp) same
  simpa using Ne.symm other

namespace Members

/-- A look-up takes the first member whose key is the one looked up. -/
theorem get?_cons (key k : Text) (value : Json) (rest : Members) :
    get? ((k, value) :: rest) key = if key = k then some value else rest.get? key := by
  unfold get?
  rw [List.lookup_cons]
  by_cases h : key = k
  · simp [h]
  · simp [h, beq_eq_false_iff_ne.mpr h]

/-- What an object has under a key is a member. -/
theorem mem_of_get? {members : Members} {key : Text} {value : Json}
    (h : members.get? key = some value) : (key, value) ∈ members :=
  mem_of_lookup h

/-- Where no key is repeated, a look-up finds every member. -/
theorem get?_of_mem {members : Members} (distinct : members.keys.Nodup) {key : Text} {value : Json}
    (h : (key, value) ∈ members) : members.get? key = some value :=
  lookup_of_mem distinct h

/-- An object has a key exactly if it has a value under it. -/
theorem has_iff {members : Members} {key : Text} :
    members.has key = true ↔ ∃ value, members.get? key = some value := by
  unfold has
  exact Option.isSome_iff_exists

/-- An object lacks a key exactly if it has no value under it. -/
theorem has_eq_false_iff {members : Members} {key : Text} :
    members.has key = false ↔ members.get? key = none := by
  unfold has
  exact Option.isSome_eq_false_iff.trans Option.isNone_iff_eq_none

/-- A value at a new key is put behind the others. -/
theorem put_eq_append {key : Text} {value : Json} {members : Members}
    (new : key ∉ members.keys) : put key value members = members ++ [(key, value)] := by
  induction members with
  | nil => rfl
  | cons member rest ih =>
    obtain ⟨k, v⟩ := member
    rw [Members.keys, List.map_cons, List.mem_cons, not_or] at new
    rw [Members.put, if_neg (Ne.symm new.1), ih new.2, List.cons_append]

/-- Setting a member changes what is found under its key, and nothing else. -/
theorem get?_put (key : Text) (value : Json) (members : Members) (other : Text) :
    (put key value members).get? other = if other = key then some value else members.get? other := by
  induction members with
  | nil => simp [put, get?_cons]
  | cons member rest ih =>
    obtain ⟨k, v⟩ := member
    by_cases same : k = key
    · subst same
      simp only [put, if_true, get?_cons]
      split <;> rfl
    · simp only [put, if_neg same, get?_cons, ih]
      by_cases here : other = k
      · simp [here, same]
      · simp [here]

/-- Setting a member to the value that it has changes nothing. -/
theorem put_eq_self {key : Text} {value : Json} {members : Members}
    (h : members.get? key = some value) : put key value members = members := by
  induction members with
  | nil => cases h
  | cons member rest ih =>
    obtain ⟨k, v⟩ := member
    rw [get?_cons] at h
    by_cases same : key = k
    · rw [if_pos same] at h
      rw [put, if_pos same.symm, Option.some.inj h]
    · rw [if_neg same] at h
      rw [put, if_neg (Ne.symm same), ih h]

end Members

namespace Json

/-- A value counts itself. -/
theorem one_le_size (v : Json) : 1 ≤ v.size := by
  cases v <;> simp [size]

/-- Items count each of them. -/
theorem size_le_sizeItems {items : List Json} {item : Json} (h : item ∈ items) :
    item.size ≤ sizeItems items := by
  induction items with
  | nil => cases h
  | cons first rest ih =>
    rw [sizeItems]
    rcases List.mem_cons.mp h with rfl | below
    · omega
    · have := ih below
      omega

/-- Members count each of their values. -/
theorem size_le_sizeMembers {members : Members} {key : Text} {value : Json}
    (h : (key, value) ∈ members) : value.size ≤ sizeMembers members := by
  induction members with
  | nil => cases h
  | cons first rest ih =>
    obtain ⟨k, v⟩ := first
    rw [sizeMembers]
    rcases List.mem_cons.mp h with same | below
    · cases same
      omega
    · have := ih below
      omega

/-- An item is less than its array. -/
theorem size_lt_of_mem {items : List Json} {item : Json} (h : item ∈ items) :
    item.size < (arr items).size := by
  have := size_le_sizeItems h
  rw [size]
  omega

/-- A value in an object is less than the object. -/
theorem size_lt_of_get? {members : Members} {key : Text} {value : Json}
    (h : members.get? key = some value) : value.size < (obj members).size := by
  have := size_le_sizeMembers (Members.mem_of_get? h)
  rw [size]
  omega

/-- An item is nested no deeper than all of them. -/
theorem nesting_le_nestingItems {items : List Json} {item : Json} (h : item ∈ items) :
    item.nesting ≤ nestingItems items := by
  induction items with
  | nil => cases h
  | cons first rest ih =>
    rw [nestingItems]
    rcases List.mem_cons.mp h with rfl | below
    · exact Nat.le_max_left _ _
    · exact Nat.le_trans (ih below) (Nat.le_max_right _ _)

/-- A value is nested no deeper than all members. -/
theorem nesting_le_nestingMembers {members : Members} {key : Text} {value : Json}
    (h : (key, value) ∈ members) : value.nesting ≤ nestingMembers members := by
  induction members with
  | nil => cases h
  | cons first rest ih =>
    obtain ⟨k, v⟩ := first
    rw [nestingMembers]
    rcases List.mem_cons.mp h with same | below
    · cases same
      exact Nat.le_max_left _ _
    · exact Nat.le_trans (ih below) (Nat.le_max_right _ _)

/-- An item has a level less than its array. -/
theorem nesting_lt_of_mem {items : List Json} {item : Json} (h : item ∈ items) :
    item.nesting < (arr items).nesting := by
  have := nesting_le_nestingItems h
  rw [nesting]
  omega

/-- A value in an object has a level less than the object. -/
theorem nesting_lt_of_get? {members : Members} {key : Text} {value : Json}
    (h : members.get? key = some value) : value.nesting < (obj members).nesting := by
  have := nesting_le_nestingMembers (Members.mem_of_get? h)
  rw [nesting]
  omega

/-- The size of what a look-up finds, zero if it finds nothing. -/
def sizeAt (members : Members) (key : Text) : Nat := ((members.get? key).map size).getD 0

/-- Putting a member in front adds at most its value to what looking up keys finds, no key being
looked up twice. -/
theorem sum_sizeAt_cons_le {names : List Text} (distinct : names.Nodup) (key : Text) (value : Json)
    (rest : Members) :
    (names.map (sizeAt ((key, value) :: rest))).sum ≤ value.size + (names.map (sizeAt rest)).sum := by
  induction names with
  | nil => simp
  | cons name others ih =>
    rw [List.nodup_cons] at distinct
    simp only [List.map_cons, List.sum_cons]
    by_cases h : name = key
    · -- The key is not among the other names, so they find the same as before.
      have same : others.map (sizeAt ((key, value) :: rest)) = others.map (sizeAt rest) := by
        apply List.map_congr_left
        intro other hmem
        have different : other ≠ key := by
          rintro rfl
          exact distinct.1 (h ▸ hmem)
        simp only [sizeAt, Members.get?_cons, if_neg different]
      have here : sizeAt ((key, value) :: rest) name = value.size := by
        simp [sizeAt, Members.get?_cons, h]
      rw [same, here]
      omega
    · have here : sizeAt ((key, value) :: rest) name = sizeAt rest name := by
        simp only [sizeAt, Members.get?_cons, if_neg h]
      have := ih distinct.2
      rw [here]
      omega

/-- What looking up several keys finds is together no larger than the members, no key being looked
up twice. -/
theorem sum_sizeAt_le {names : List Text} (distinct : names.Nodup) (members : Members) :
    (names.map (sizeAt members)).sum ≤ sizeMembers members := by
  induction members with
  | nil =>
    have zero : names.map (sizeAt []) = List.replicate names.length 0 :=
      List.map_eq_replicate_iff.mpr fun _ _ => rfl
    rw [zero]
    simp [sizeMembers]
  | cons member rest ih =>
    obtain ⟨key, value⟩ := member
    have := sum_sizeAt_cons_le distinct key value rest
    rw [sizeMembers]
    omega

end Json

end Rulebook
