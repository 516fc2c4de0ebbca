import Mathlib

/-!
# Lists

Facts about lists that several parts rely on: a run over a list in which nothing fails, the greatest of
what a list is measured by, the parts of a list item by item, with their numbers or with one item alone
that has any, and the first occurrences in a list.
-/

set_option autoImplicit false

namespace Rulebook

variable {α β ε : Type}

/-- A run over a list gives a result exactly if each item does. -/
theorem mapM_eq_ok_iff {f : α → Except ε β} {items : List α} {results : List β} :
    items.mapM f = .ok results ↔ items.map f = results.map Except.ok := by
  induction items generalizing results with
  | nil => cases results <;> simp [pure, Except.pure]
  | cons a rest ih =>
    rw [List.mapM_cons, List.map_cons]
    cases results with
    | nil => cases f a <;> cases rest.mapM f <;> simp [bind, Except.bind, pure, Except.pure]
    | cons b later =>
      rw [List.map_cons, List.cons.injEq, ← ih]
      cases f a <;> cases rest.mapM f <;> simp [bind, Except.bind, pure, Except.pure]

/-- Where nothing fails, a run over a list gives what each item gives. -/
theorem mapM_eq_ok {f : α → Except ε β} {g : α → β} {items : List α}
    (h : ∀ a ∈ items, f a = .ok (g a)) : items.mapM f = .ok (items.map g) := by
  rw [mapM_eq_ok_iff, List.map_map]
  exact List.map_congr_left h

/-- The greatest measure of a list is that of the items in it, however they are ordered or
repeated. -/
theorem foldl_max_map [DecidableEq α] (measure : α → Nat) (items : List α) (least : Nat) :
    (items.map measure).foldl max least = max least (items.toFinset.sup measure) := by
  induction items generalizing least with
  | nil => simp
  | cons a rest ih =>
    rw [List.map_cons, List.foldl_cons, ih, List.toFinset_cons, Finset.sup_insert]
    exact max_assoc least (measure a) _

/-- Where one item of a list alone has a part, the parts of the list are that part. -/
theorem flatMap_eq_of_mem {items : List α} (distinct : items.Nodup) {a : α} (mem : a ∈ items)
    {f : α → List β} (others : ∀ b ∈ items, b ≠ a → f b = []) : items.flatMap f = f a := by
  obtain ⟨front, back, rfl⟩ := List.append_of_mem mem
  rw [List.nodup_middle, List.nodup_cons, List.mem_append, not_or] at distinct
  obtain ⟨⟨not_front, not_back⟩, -⟩ := distinct
  have front_nil : front.flatMap f = [] := by
    rw [List.flatMap_eq_nil_iff]
    intro b listed
    exact others b (by simp [listed]) (ne_of_mem_of_not_mem listed not_front)
  have back_nil : back.flatMap f = [] := by
    rw [List.flatMap_eq_nil_iff]
    intro b listed
    exact others b (by simp [listed]) (ne_of_mem_of_not_mem listed not_back)
  rw [List.flatMap_append, List.flatMap_cons, front_nil, back_nil, List.nil_append, List.append_nil]

/-- The same of a table in which no key is repeated. -/
theorem flatMap_eq_of_key {κ : Type} {table : List (κ × α)} (distinct : (table.map Prod.fst).Nodup)
    {key : κ} {a : α} (mem : (key, a) ∈ table) {f : κ × α → List β}
    (others : ∀ entry ∈ table, entry.1 ≠ key → f entry = []) : table.flatMap f = f (key, a) := by
  apply flatMap_eq_of_mem distinct.of_map mem
  intro entry listed other
  apply others entry listed
  intro same
  exact other (List.inj_on_of_nodup_map distinct listed mem same)

/-- Items that have one part each, or none, bring in the parts of those that have one. -/
theorem flatMap_ite_singleton (items : List α) (p : α → Bool) (f : α → β) :
    (items.flatMap fun a => if p a then [f a] else []) = (items.filter p).map f := by
  induction items with
  | nil => rfl
  | cons a rest ih => cases h : p a <;> simp [h, ih]

/-- Items with their places are distinct, since the places are. -/
theorem nodup_zipIdx (items : List α) : items.zipIdx.Nodup := by
  apply List.Nodup.of_map Prod.snd
  rw [List.zipIdx_map_snd]
  exact List.nodup_range'

/-- Where the number of an item's parts does not depend on its place, numbered items have as many
parts as the items. -/
theorem length_flatMap_zipIdx {items : List α} {f : α × Nat → List β} {size : α → Nat}
    (h : ∀ a place, (f (a, place)).length = size a) :
    (items.zipIdx.flatMap f).length = (items.map size).sum := by
  have sizes : (items.zipIdx.map fun entry => (f entry).length) = items.zipIdx.map (size ∘ Prod.fst) :=
    List.map_congr_left fun entry _ => h entry.1 entry.2
  rw [List.length_flatMap, sizes, ← List.map_map, List.zipIdx_map_fst]

/-- Another item in a list whose items have no parts brings in its own part. -/
theorem flatMap_set {items : List α} {f : α → List β} (none : ∀ b ∈ items, f b = []) {place : Nat}
    (lt : place < items.length) (a : α) : (items.set place a).flatMap f = f a := by
  have front_nil : (items.take place).flatMap f = [] := by
    rw [List.flatMap_eq_nil_iff]
    intro b listed
    exact none b (List.mem_of_mem_take listed)
  have back_nil : (items.drop (place + 1)).flatMap f = [] := by
    rw [List.flatMap_eq_nil_iff]
    intro b listed
    exact none b (List.mem_of_mem_drop listed)
  rw [List.set_eq_take_append_cons_drop, if_pos lt, List.flatMap_append, List.flatMap_cons,
    front_nil, back_nil, List.nil_append, List.append_nil]

variable [DecidableEq α]

/-- An item at the end counts among the first occurrences if it has not come before. -/
theorem eraseDups_concat (items : List α) (a : α) :
    (items ++ [a]).eraseDups =
      if a ∈ items then items.eraseDups else items.eraseDups ++ [a] := by
  rw [List.eraseDups_append]
  by_cases h : a ∈ items
  · simp [List.removeAll, h]
  · simp [List.removeAll, h, List.eraseDups_cons]

/-- Without its duplicates a list has no item twice. -/
theorem nodup_eraseDups (items : List α) : items.eraseDups.Nodup := by
  induction items using List.reverseRecOn with
  | nil => exact List.nodup_nil
  | append_singleton front a ih =>
    rw [eraseDups_concat]
    split
    · exact ih
    · next new =>
      rw [List.nodup_append]
      refine ⟨ih, List.nodup_singleton a, ?_⟩
      intro x listed y last same
      rw [List.mem_singleton.mp last] at same
      exact new (same ▸ List.mem_eraseDups.mp listed)

end Rulebook
