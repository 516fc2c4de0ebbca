import Rulebook.Proofs.Registry.Revision

/-!
# Keys and listings

The key of a document is its name with its version. Documents have distinct keys and a name each, and
both writes keep that (`Keyed.created`, `Keyed.changed`): a creation looks for its key first, and a
change touches no key.

A listing sorts by name in the order of code points and puts the later versions of a name first. On
distinct keys that order is strict, so the documents have only one arrangement in it, and the listing of
one name is the part of the full listing with that name.
-/

set_option autoImplicit false

namespace Rulebook

/-- The order of texts is the lexicographic one. -/
theorem Text.ble_iff (a b : Text) : a.ble b = true ↔ a = b ∨ a < b := by
  induction a generalizing b with
  | nil => cases b <;> simp [Text.ble]
  | cons x xs ih =>
    cases b with
    | nil => simp [Text.ble]
    | cons y ys =>
      rw [Text.ble, List.cons_lt_cons_iff]
      by_cases same : x = y
      · simp [same, ih]
      · simp [same]

namespace StoredDocument

/-- What tells the documents of a registry apart. -/
def key (d : StoredDocument) : Text × Int := (d.name, d.version)

/-- Whether a document stands before another one in a listing: its name is the lesser one, or it is
the later version of the same name. -/
def Precedes (a b : StoredDocument) : Prop :=
  a.name < b.name ∨ a.name = b.name ∧ b.version < a.version

variable {a b d old : StoredDocument}

/-- Two documents have one key exactly if name and version are the same. -/
theorem key_eq_iff : a.key = b.key ↔ a.name = b.name ∧ a.version = b.version := by
  simp [key]

/-- A revision keeps the key. -/
theorem IsRevisionOf.key_eq (h : d.IsRevisionOf old) : d.key = old.key :=
  key_eq_iff.mpr ⟨h.name_eq, h.version_eq⟩

/-- Of two documents one at most precedes the other. -/
theorem Precedes.asymm (h : a.Precedes b) : ¬ b.Precedes a := by
  rintro (less | ⟨same, later⟩)
  · rcases h with greater | ⟨same, -⟩
    · exact lt_asymm less greater
    · exact less.ne same.symm
  · rcases h with greater | ⟨-, earlier⟩
    · exact greater.ne same.symm
    · omega

end StoredDocument

namespace Registry

variable {r after : Registry} {new : NewDocument} {c : DocumentChange} {d d' : StoredDocument}

/-! ## Keys -/

/-- A registry whose documents have distinct keys and a name each. -/
structure Keyed (r : Registry) : Prop where
  distinct : (r.documents.map StoredDocument.key).Nodup
  named : ∀ d ∈ r.documents, d.name ≠ []

/-- The empty registry has distinct keys. -/
theorem keyed_empty : Keyed {} where
  distinct := List.nodup_nil
  named := fun _ mem => by cases mem

/-- A key is free exactly if no document has it. -/
theorem has_eq_false {documents : List StoredDocument} {name : Text} {version : Int} :
    has documents name version = false ↔ (name, version) ∉ documents.map StoredDocument.key := by
  simp [has, StoredDocument.key]

namespace Keyed

/-- Keys depend on the documents alone. -/
theorem of_documents (h : Keyed r) (same : after.documents = r.documents) : Keyed after := by
  constructor
  · rw [same]
    exact h.distinct
  · rw [same]
    exact h.named

/-- A creation keeps the keys distinct, since its key was free. -/
theorem created (h : Keyed r) (write : Created r new d after) (named : new.name ≠ []) :
    Keyed after := by
  constructor
  · have key : d.key = (new.name, new.version) := by
      rw [StoredDocument.key, write.name_eq, write.version_eq]
    have absent : d.key ∉ r.documents.map StoredDocument.key := by
      rw [key]
      exact has_eq_false.mp write.fresh
    rw [write.map_documents fun _ _ => rfl]
    apply List.nodup_append.mpr
    refine ⟨h.distinct, List.nodup_singleton _, ?_⟩
    intro x listed y last same
    rw [List.mem_singleton.mp last] at same
    exact absent (same ▸ listed)
  · intro x mem
    rcases write.origin mem with rfl | ⟨old, prior, revision⟩
    · rw [write.name_eq]
      exact named
    · rw [revision.name_eq]
      exact h.named old prior

/-- A change keeps the keys distinct, since it keeps every key. -/
theorem changed (h : Keyed r) (sound : r.Sound) (mem : d ∈ r.documents)
    (write : Changed r d c d' after) : Keyed after := by
  constructor
  · have kept : ∀ x ∈ r.documents, x.id = d.id → d'.key = x.key := by
      intro x prior same
      rw [write.isRevisionOf.key_eq, sound.eq_of_id prior mem same]
    rw [write.map_documents (fun _ _ => rfl) kept]
    exact h.distinct
  · intro x listed
    obtain ⟨old, prior, revision⟩ := write.origin mem listed
    rw [revision.name_eq]
    exact h.named old prior

end Keyed

/-! ## The order of a listing -/

/-- In a listing names go up, and for one name the versions go down. -/
theorem listsBefore_iff (a b : StoredDocument) :
    listsBefore a b = true ↔ a.name < b.name ∨ a.name = b.name ∧ b.version ≤ a.version := by
  unfold listsBefore
  split
  · next same => simp [same]
  · next other => rw [Text.ble_iff, or_iff_right other, or_iff_left fun both => other both.1]

/-- The order of a listing is transitive. -/
theorem listsBefore_trans (a b c : StoredDocument) (hab : listsBefore a b = true)
    (hbc : listsBefore b c = true) : listsBefore a c = true := by
  rw [listsBefore_iff] at hab hbc ⊢
  rcases hab with less | ⟨same, later⟩
  · rcases hbc with more | ⟨next, -⟩
    · exact Or.inl (less.trans more)
    · exact Or.inl (next ▸ less)
  · rw [same]
    exact hbc.imp_right fun both => ⟨both.1, both.2.trans later⟩

/-- The order of a listing is total. -/
theorem listsBefore_total (a b : StoredDocument) :
    (listsBefore a b || listsBefore b a) = true := by
  rw [Bool.or_eq_true, listsBefore_iff, listsBefore_iff]
  rcases lt_trichotomy a.name b.name with less | same | greater
  · exact Or.inl (Or.inl less)
  · rcases Int.le_total b.version a.version with le | le
    · exact Or.inl (Or.inr ⟨same, le⟩)
    · exact Or.inr (Or.inr ⟨same.symm, le⟩)
  · exact Or.inr (Or.inl greater)

/-- Of documents with different keys the one that is listed first stands before the other one. -/
theorem precedes_of_listsBefore {a b : StoredDocument} (h : listsBefore a b = true)
    (other : a.key ≠ b.key) : a.Precedes b := by
  rcases (listsBefore_iff a b).mp h with less | ⟨same, later⟩
  · exact Or.inl less
  · refine Or.inr ⟨same, lt_of_le_of_ne later ?_⟩
    intro equal
    exact other (StoredDocument.key_eq_iff.mpr ⟨same, equal.symm⟩)

/-- A listing has every document once. -/
theorem list_perm (r : Registry) : (r.list none).Perm r.documents := by
  have all : (r.documents.filter fun d => (none : Option Text).all (d.name = ·)) = r.documents := by
    simp
  rw [list, all]
  exact List.mergeSort_perm _ _

/-- The listing of a name has those documents of the full one that have the name. -/
theorem list_name_perm (r : Registry) (name : Text) :
    (r.list (some name)).Perm ((r.list none).filter fun d => d.name = name) := by
  have sorted := List.mergeSort_perm (r.documents.filter fun d => d.name = name) listsBefore
  exact sorted.trans ((list_perm r).filter _).symm

namespace Keyed

/-- A listing is strictly ordered. -/
theorem pairwise_list (h : Keyed r) (name : Option Text) :
    (r.list name).Pairwise StoredDocument.Precedes := by
  have sorted : (r.list name).Pairwise fun a b => listsBefore a b = true :=
    List.pairwise_mergeSort listsBefore_trans listsBefore_total _
  have keys : ((r.list name).map StoredDocument.key).Nodup := by
    have perm := List.mergeSort_perm (r.documents.filter fun d => name.all (d.name = ·)) listsBefore
    apply (perm.map StoredDocument.key).nodup_iff.mpr
    exact (List.filter_sublist.map StoredDocument.key).nodup h.distinct
  exact sorted.imp₂ (fun a b => precedes_of_listsBefore) (List.pairwise_map.mp keys)

/-- The listing of a name is the part of the full listing with that name. -/
theorem list_some (h : Keyed r) (name : Text) :
    r.list (some name) = (r.list none).filter fun d => d.name = name := by
  apply List.Perm.eq_of_pairwise
  · intro a b _ _ (before : a.Precedes b) behind
    exact absurd behind before.asymm
  · exact h.pairwise_list (some name)
  · exact (h.pairwise_list none).filter _
  · exact list_name_perm r name

end Keyed

end Registry

end Rulebook
