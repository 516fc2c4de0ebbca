import Rulebook.Json.Reader
import Rulebook.Proofs.Json.Members

/-!
# Objects without repeated keys

Looking up a member by its key is all that can be asked of an object only if no key is repeated.
That is so of every value that the reader gives, because it puts pairs into an object one by one, and
a key that is there already keeps its place. The property is carried through the pieces of the reader
by what each of them yields.
-/

set_option autoImplicit false

namespace Rulebook

namespace Json

mutual

/-- Whether no object in a tree repeats a key. -/
def hasDistinctKeys : Json → Bool
  | .arr items => hasDistinctKeysItems items
  | .obj members => (Members.keys members).Nodup && hasDistinctKeysMembers members
  | _ => true

/-- Whether no object in a list of trees repeats a key. -/
def hasDistinctKeysItems : List Json → Bool
  | [] => true
  | item :: rest => hasDistinctKeys item && hasDistinctKeysItems rest

/-- Whether no object in the members of an object repeats a key. -/
def hasDistinctKeysMembers : List (Text × Json) → Bool
  | [] => true
  | (_, value) :: rest => hasDistinctKeys value && hasDistinctKeysMembers rest

end

/-- Items have distinct keys exactly if each of them has. -/
theorem hasDistinctKeysItems_iff {items : List Json} :
    hasDistinctKeysItems items = true ↔ ∀ item ∈ items, item.hasDistinctKeys = true := by
  induction items with
  | nil => simp [hasDistinctKeysItems]
  | cons item rest ih => simp [hasDistinctKeysItems, ih]

/-- The values of members have distinct keys exactly if each of them has. -/
theorem hasDistinctKeysMembers_iff {members : Members} :
    hasDistinctKeysMembers members = true ↔
      ∀ key value, (key, value) ∈ members → value.hasDistinctKeys = true := by
  induction members with
  | nil => simp [hasDistinctKeysMembers]
  | cons member rest ih =>
    obtain ⟨key, value⟩ := member
    rw [hasDistinctKeysMembers, Bool.and_eq_true, ih]
    constructor
    · rintro ⟨first, others⟩ k v mem
      rcases List.mem_cons.mp mem with same | below
      · cases same
        exact first
      · exact others k v below
    · intro h
      exact ⟨h key value List.mem_cons_self, fun k v mem => h k v (List.mem_cons_of_mem _ mem)⟩

/-- An array has distinct keys exactly if each of its items has. -/
theorem hasDistinctKeys_arr {items : List Json} :
    (arr items).hasDistinctKeys = true ↔ ∀ item ∈ items, item.hasDistinctKeys = true := by
  rw [hasDistinctKeys, hasDistinctKeysItems_iff]

/-- An object has distinct keys exactly if it repeats none and its values have distinct keys. -/
theorem hasDistinctKeys_obj {members : Members} :
    (obj members).hasDistinctKeys = true ↔ members.keys.Nodup ∧
      ∀ key value, (key, value) ∈ members → value.hasDistinctKeys = true := by
  rw [hasDistinctKeys, Bool.and_eq_true, decide_eq_true_iff, hasDistinctKeysMembers_iff]

end Json

namespace Members

/-- Setting a key keeps the keys that are there and adds the key at the end if it is new. -/
theorem keys_put (key : Text) (value : Json) (members : Members) :
    (put key value members).keys =
      if key ∈ members.keys then members.keys else members.keys ++ [key] := by
  induction members with
  | nil => simp [put, keys]
  | cons member rest ih =>
    obtain ⟨k, v⟩ := member
    unfold put
    by_cases same : k = key
    · simp [same, keys]
    · have other : key ≠ k := Ne.symm same
      simp only [keys] at ih
      simp only [if_neg same, keys, List.map_cons, ih, List.mem_cons, other, false_or]
      by_cases present : key ∈ rest.map Prod.fst <;> simp [present]

/-- A member after setting a key is the one set or one from before. -/
theorem mem_put {key k : Text} {value v : Json} {members : Members}
    (h : (k, v) ∈ put key value members) : v = value ∨ (k, v) ∈ members := by
  induction members with
  | nil =>
    cases List.mem_singleton.mp h
    exact Or.inl rfl
  | cons member rest ih =>
    obtain ⟨k', v'⟩ := member
    unfold put at h
    split at h
    · rcases List.mem_cons.mp h with same | below
      · cases same
        exact Or.inl rfl
      · exact Or.inr (List.mem_cons_of_mem _ below)
    · rcases List.mem_cons.mp h with same | below
      · cases same
        exact Or.inr List.mem_cons_self
      · exact (ih below).imp_right (List.mem_cons_of_mem _)

/-- Putting a value at a key keeps the keys of an object distinct. -/
theorem nodup_keys_put {key : Text} {value : Json} {members : Members} (h : members.keys.Nodup) :
    (put key value members).keys.Nodup := by
  rw [keys_put]
  split
  · exact h
  · next new =>
    rw [List.nodup_append]
    refine ⟨h, by simp, ?_⟩
    rintro k present _ last rfl
    exact new (List.mem_singleton.mp last ▸ present)

/-- Setting pairs whose values have distinct keys one by one leaves the keys distinct. -/
theorem hasDistinctKeys_foldl_put {pairs : List (Text × Json)} {members : Members}
    (h : ∀ key value, (key, value) ∈ pairs → value.hasDistinctKeys = true)
    (before : (Json.obj members).hasDistinctKeys = true) :
    (Json.obj (pairs.foldl (fun members (key, value) => put key value members)
      members)).hasDistinctKeys = true := by
  induction pairs generalizing members with
  | nil => exact before
  | cons pair rest ih =>
    obtain ⟨key, value⟩ := pair
    obtain ⟨distinct, values⟩ := Json.hasDistinctKeys_obj.mp before
    refine ih (fun k v mem => h k v (List.mem_cons_of_mem _ mem)) ?_
    refine Json.hasDistinctKeys_obj.mpr ⟨nodup_keys_put distinct, fun k v mem => ?_⟩
    rcases mem_put mem with rfl | old
    · exact h key v List.mem_cons_self
    · exact values k v old

/-- Pairs whose values have distinct keys make an object that has distinct keys. -/
theorem hasDistinctKeys_ofPairs {pairs : List (Text × Json)}
    (h : ∀ key value, (key, value) ∈ pairs → value.hasDistinctKeys = true) :
    (Json.obj (ofPairs pairs)).hasDistinctKeys = true :=
  hasDistinctKeys_foldl_put h rfl

end Members

namespace Json.Reader

/-- Whether every result of a piece of the reader has a property. -/
def Yields {α : Type} (step : Step α) (p : α → Prop) : Prop :=
  ∀ t a rest, step t = .ok (a, rest) → p a

/-- A word or a numeral is no object. -/
theorem yields_scalar {dialect : Dialect} :
    Yields (scalar dialect) fun v => v.hasDistinctKeys = true := by
  intro t v rest h
  unfold scalar at h
  split at h
  · next name value behind found =>
    have plain : ∀ entry ∈ words, entry.2.hasDistinctKeys = true := by decide
    obtain ⟨entry, mem, eq⟩ := List.exists_of_findSome?_eq_some found
    obtain ⟨r, -, same⟩ := Option.map_eq_some_iff.mp eq
    cases same
    cases h
    exact plain _ mem
  · split at h
    · split at h
      · cases h
        rfl
      · cases h
    · split at h
      · next numeral behind _ =>
        unfold Numeral.value at h
        split at h
        · split at h
          · cases h
          · cases h
            rfl
        · cases h
          rfl
      · cases h

/-- The items of an array are results of the reader of items. -/
theorem yields_items {item : Step Json} {p : Json → Prop} (hi : Yields item p) (clock : Text)
    (found : List Json) (before : ∀ v ∈ found, p v) :
    Yields (items item clock found) fun vs => ∀ v ∈ vs, p v := by
  induction clock generalizing found with
  | nil =>
    intro t vs rest h
    cases h
  | cons tick clock ih =>
    intro t vs rest h
    unfold items at h
    split at h
    · cases h
    · next value behind read =>
      have after : ∀ v ∈ value :: found, p v := by
        rw [List.forall_mem_cons]
        exact ⟨hi _ _ _ read, before⟩
      split at h
      · cases h
      · split at h
        · cases h
          intro v mem
          exact after v (List.mem_reverse.mp mem)
        · split at h
          · exact ih (value :: found) after _ _ _ h
          · cases h

/-- The value of a member is a result of the reader of values. -/
theorem yields_member {item : Step Json} {p : Json → Prop} (hi : Yields item p) :
    Yields (member item) fun pair => p pair.2 := by
  intro t pair rest h
  unfold member at h
  split at h
  · cases h
  · split at h
    · split at h
      · cases h
      · split at h
        · cases h
        · split at h
          · cases read : item (skipSpace _) with
            | error fault =>
              rw [read] at h
              cases h
            | ok result =>
              obtain ⟨value, behind⟩ := result
              rw [read] at h
              cases h
              exact hi _ _ _ read
          · cases h
    · cases h

/-- The values of members are results of the reader of values. -/
theorem yields_members {item : Step Json} {p : Json → Prop} (hi : Yields item p) (clock : Text)
    (found : List (Text × Json)) (before : ∀ pair ∈ found, p pair.2) :
    Yields (members item clock found) fun pairs => ∀ pair ∈ pairs, p pair.2 := by
  induction clock generalizing found with
  | nil =>
    intro t pairs rest h
    cases h
  | cons tick clock ih =>
    intro t pairs rest h
    unfold members at h
    split at h
    · cases h
    · next pair behind read =>
      have after : ∀ other ∈ pair :: found, p other.2 := by
        rw [List.forall_mem_cons]
        exact ⟨yields_member hi _ _ _ read, before⟩
      split at h
      · cases h
      · split at h
        · cases h
          intro other mem
          exact after other (List.mem_reverse.mp mem)
        · split at h
          · exact ih (pair :: found) after _ _ _ h
          · cases h

/-- An array has distinct keys if its items are read with distinct keys. -/
theorem yields_array {item : Step Json} (hi : Yields item fun v => v.hasDistinctKeys = true) :
    Yields (array item) fun v => v.hasDistinctKeys = true := by
  intro t v rest h
  unfold array at h
  split at h
  · cases h
  · next c behind _ =>
    split at h
    · cases h
      rfl
    · cases read : items item (c :: behind) [] (c :: behind) with
      | error fault =>
        rw [read] at h
        cases h
      | ok result =>
        obtain ⟨found, after⟩ := result
        rw [read] at h
        cases h
        exact hasDistinctKeys_arr.mpr
          (yields_items hi _ [] (fun v mem => absurd mem List.not_mem_nil) _ _ _ read)

/-- An object has distinct keys if its values are read with distinct keys. -/
theorem yields_object {item : Step Json} (hi : Yields item fun v => v.hasDistinctKeys = true) :
    Yields (object item) fun v => v.hasDistinctKeys = true := by
  intro t v rest h
  unfold object at h
  split at h
  · cases h
  · next c behind _ =>
    split at h
    · cases h
      rfl
    · cases read : members item (c :: behind) [] (c :: behind) with
      | error fault =>
        rw [read] at h
        cases h
      | ok result =>
        obtain ⟨found, after⟩ := result
        rw [read] at h
        cases h
        have values := yields_members hi _ [] (fun v mem => absurd mem List.not_mem_nil) _ _ _ read
        exact Members.hasDistinctKeys_ofPairs fun key value mem => values (key, value) mem

/-- A value has distinct keys if the values that are read inside it have. -/
theorem yields_valueWith {dialect : Dialect} {nested : Option (Step Json)}
    (hn : ∀ item ∈ nested, Yields item fun v => v.hasDistinctKeys = true) :
    Yields (valueWith dialect nested) fun v => v.hasDistinctKeys = true := by
  intro t v rest h
  unfold valueWith at h
  split at h
  · cases h
  · next c behind =>
    split at h
    · cases read : string (c :: behind) behind with
      | error fault =>
        rw [read] at h
        cases h
      | ok result =>
        rw [read] at h
        cases h
        rfl
    · split at h
      · split at h
        · next item =>
          exact yields_array (hn item rfl) _ _ _ h
        · cases h
      · split at h
        · split at h
          · next item =>
            exact yields_object (hn item rfl) _ _ _ h
          · cases h
        · exact yields_scalar _ _ _ h

/-- Every value that is read has distinct keys. -/
theorem yields_value {dialect : Dialect} (levels : Nat) :
    Yields (value dialect levels) fun v => v.hasDistinctKeys = true := by
  induction levels with
  | zero => exact yields_valueWith fun _ none => by cases none
  | succ levels ih =>
    refine yields_valueWith fun item some => ?_
    cases some
    exact ih

/-- A document that is read has distinct keys. -/
theorem hasDistinctKeys_of_strictDocument {t : Text} {v : Json} (h : strictDocument t = .ok v) :
    v.hasDistinctKeys = true := by
  unfold strictDocument at h
  split at h
  · cases h
  · unfold document at h
    split at h
    · cases h
    · next read =>
      split at h
      · cases h
        exact yields_value _ _ _ _ read
      · cases h

end Json.Reader

end Rulebook
