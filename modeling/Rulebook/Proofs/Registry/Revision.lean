import Rulebook.Proofs.Registry.Store

/-!
# Revisions of a document

A write leaves every document that is there in the registry, and changes no more of it than whether it
is active and what its notes are: what is there afterwards is a revision. Conversely every document
that is there after a write is a revision of one from before, or the one that is created.
-/

set_option autoImplicit false

namespace Rulebook

namespace StoredDocument

/-- Whether a document is another one but for being active and for its notes. -/
def IsRevisionOf (d old : StoredDocument) : Prop :=
  d = { old with active := d.active, notes := d.notes }

variable {d old older : StoredDocument}

/-- A document is a revision of itself. -/
theorem isRevisionOf_refl (d : StoredDocument) : d.IsRevisionOf d := rfl

namespace IsRevisionOf

/-- A revision keeps the identifier. -/
theorem id_eq (h : d.IsRevisionOf old) : d.id = old.id := by rw [h]

/-- A revision keeps the name. -/
theorem name_eq (h : d.IsRevisionOf old) : d.name = old.name := by rw [h]

/-- A revision keeps the version. -/
theorem version_eq (h : d.IsRevisionOf old) : d.version = old.version := by rw [h]

/-- A revision keeps the content. -/
theorem content_eq (h : d.IsRevisionOf old) : d.content = old.content := by rw [h]

/-- A revision keeps the time of the creation. -/
theorem created_eq (h : d.IsRevisionOf old) : d.created = old.created := by rw [h]

/-- A revision of a revision is one. -/
theorem trans (h : d.IsRevisionOf old) (g : old.IsRevisionOf older) : d.IsRevisionOf older := by
  rw [IsRevisionOf, ← g.id_eq, ← g.name_eq, ← g.version_eq, ← g.content_eq, ← g.created_eq]
  exact h

end IsRevisionOf

end StoredDocument

namespace Registry

variable {r after : Registry} {new : NewDocument} {c : DocumentChange} {d d' old x : StoredDocument}

/-- A document that is prepared is a revision of one that was there. -/
theorem isRevisionOf_of_mem_prepared {becomesActive : Bool} {name : Text} {kept : Option Nat}
    {documents : List StoredDocument} (mem : x ∈ prepared becomesActive name kept documents) :
    ∃ old ∈ documents, x.IsRevisionOf old := by
  obtain ⟨old, prior, same⟩ := eq_of_mem_prepared mem
  refine ⟨old, prior, ?_⟩
  rw [same]
  rfl

/-- Every document is there, revised or not, when the write starts. -/
theorem exists_mem_prepared {becomesActive : Bool} {name : Text} {kept : Option Nat}
    {documents : List StoredDocument} (mem : old ∈ documents) :
    ∃ x ∈ prepared becomesActive name kept documents, x.IsRevisionOf old := by
  cases becomesActive with
  | false => exact ⟨old, mem, old.isRevisionOf_refl⟩
  | true =>
    refine ⟨_, List.mem_map_of_mem mem, ?_⟩
    split <;> rfl

namespace Created

/-- After a creation every document is the new one or a revision of one that was there. -/
theorem origin (write : Created r new d after) (mem : x ∈ after.documents) :
    x = d ∨ ∃ old ∈ r.documents, x.IsRevisionOf old := by
  rcases write.mem_documents.mp mem with prior | same
  · exact Or.inr (isRevisionOf_of_mem_prepared prior)
  · exact Or.inl same

/-- A creation leaves a revision of every document that was there. -/
theorem kept (write : Created r new d after) (mem : old ∈ r.documents) :
    ∃ x ∈ after.documents, x.IsRevisionOf old := by
  obtain ⟨x, prior, revision⟩ := exists_mem_prepared mem
  exact ⟨x, write.mem_documents.mpr (Or.inl prior), revision⟩

end Created

namespace Changed

/-- A change leaves a revision of its target. -/
theorem isRevisionOf (write : Changed r d c d' after) : d'.IsRevisionOf d := write.document

/-- After a change every document is a revision of one that was there. -/
theorem origin (write : Changed r d c d' after) (listed : d ∈ r.documents)
    (mem : x ∈ after.documents) : ∃ old ∈ r.documents, x.IsRevisionOf old := by
  rcases (write.mem_documents listed).mp mem with same | ⟨prior, -⟩
  · exact ⟨d, listed, same ▸ write.isRevisionOf⟩
  · exact isRevisionOf_of_mem_prepared prior

/-- A change leaves a revision of every document that was there. -/
theorem kept (write : Changed r d c d' after) (sound : r.Sound) (listed : d ∈ r.documents)
    (mem : old ∈ r.documents) : ∃ x ∈ after.documents, x.IsRevisionOf old := by
  by_cases same : old.id = d.id
  · obtain rfl := sound.eq_of_id mem listed same
    exact ⟨d', (write.mem_documents listed).mpr (Or.inl rfl), write.isRevisionOf⟩
  · obtain ⟨x, prior, revision⟩ := exists_mem_prepared mem
    have other : x.id ≠ d.id := by
      rw [revision.id_eq]
      exact same
    exact ⟨x, (write.mem_documents listed).mpr (Or.inr ⟨prior, other⟩), revision⟩

end Changed

end Registry

end Rulebook
