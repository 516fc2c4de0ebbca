import Rulebook.Registry.Form
import Rulebook.Proofs.Json.Members
import Rulebook.Proofs.Registry.Store

/-!
# What a write touches

A form asks for changes field by field: what a body leaves out is kept, or has its default in a new
document. A write that succeeds is then told document by document, by a map over the documents that are
there. A creation makes the others of its name inactive if the new document is active (`givenWay`) and
adds one document; a change applies to its target what is asked for and makes the others of its name
inactive if the target is to become active (`affected`). Documents of other names stay as they are, so
changes of documents of different names commute (`affected_comm`).
-/

set_option autoImplicit false

namespace Rulebook

/-! ## Forms -/

namespace Form

variable {α : Type} {read : Json → Except FormCause α} {name : Text} {body : Members}

/-- What a form takes from a field that need not be there. -/
inductive Takes (read : Json → Except FormCause α) (default : α) (name : Text) (body : Members) :
    α → Prop where
  | default (absent : body.get? name = none) : Takes read default name body default
  | value {v : Json} {a : α} (given : body.get? name = some v) (reads : read v = .ok a) :
      Takes read default name body a

/-- What a form asks to become of a field. -/
inductive Asks (read : Json → Except FormCause α) (name : Text) (body : Members) :
    Change α → Prop where
  | keep (absent : body.get? name = none) : Asks read name body .keep
  | clear (null : body.get? name = some .null) : Asks read name body .clear
  | set {v : Json} {a : α} (given : body.get? name = some v) (no_null : v ≠ .null)
      (reads : read v = .ok a) : Asks read name body (.set a)

/-- A body that makes the form of a new document, field by field. -/
structure IsNewDocument (body : Members) (new : NewDocument) : Prop where
  name : body.get? "name" = some (.str new.name)
  version : Takes readInteger 1 "version" body new.version
  active : Takes readBoolean true "is_active" body new.active
  notes : Takes (readNullable readText) none "notes" body new.notes
  content : body.get? "content" = some (.str new.content)

/-- No field of a body says when a document is created. -/
theorem IsNewDocument.at_time {body : Members} {new : NewDocument} (h : IsNewDocument body new)
    (created : Time) : IsNewDocument body { new with created } :=
  ⟨h.name, h.version, h.active, h.notes, h.content⟩

/-- A body that makes the form of a change, field by field. -/
structure IsDocumentChange (body : Members) (c : DocumentChange) : Prop where
  active : Asks readBoolean "is_active" body c.active
  notes : Asks readText "notes" body c.notes

/-- The values that are read as a text are the texts. -/
theorem readText_eq_ok {v : Json} {t : Text} : readText v = .ok t ↔ v = .str t := by
  cases v <;> simp [readText]

/-- Any other value than null is read as it would be if null were not allowed. -/
theorem readNullable_of_ne_null {v : Json} (no_null : v ≠ .null) :
    readNullable read v = (read v).map some := by
  cases v with
  | null => exact absurd rfl no_null
  | _ => rfl

/-- A value is read as something exactly if it is not null and is read as that. -/
theorem readNullable_eq_some {v : Json} {a : α} :
    readNullable read v = .ok (some a) ↔ v ≠ .null ∧ read v = .ok a := by
  by_cases null : v = .null
  · simp [null, readNullable]
  · rw [readNullable_of_ne_null null]
    cases read v <;> simp [Except.map, null]

/-- Null alone is read as nothing. -/
theorem readNullable_eq_none {v : Json} : readNullable read v = .ok none ↔ v = .null := by
  by_cases null : v = .null
  · simp [null, readNullable]
  · rw [readNullable_of_ne_null null]
    cases read v <;> simp [Except.map, null]

/-- A required field is read exactly if it is there and its value is read. -/
theorem required_eq_ok {a : α} :
    required read name body = .ok a ↔ ∃ v, body.get? name = some v ∧ read v = .ok a := by
  unfold required
  cases body.get? name with
  | none => simp
  | some v => cases h : read v <;> simp [h]

/-- What is read of an optional field is its value, or the default where it is absent. -/
theorem takes_of_optional {default a : α} (h : optional read default name body = .ok a) :
    Takes read default name body a := by
  unfold optional at h
  split at h
  · obtain ⟨v, given, reads⟩ := required_eq_ok.mp h
    exact .value given reads
  · next absent =>
    rw [Bool.not_eq_true, Members.has_eq_false_iff] at absent
    cases h
    exact .default absent

/-- What is read of a changeable field is what the body asks for. -/
theorem asks_of_changeable {change : Change α} (h : changeable read name body = .ok change) :
    Asks read name body change := by
  unfold changeable at h
  split at h
  · cases h
  · next a taken =>
    cases h
    cases takes_of_optional taken with
    | value given reads =>
      obtain ⟨no_null, reads⟩ := readNullable_eq_some.mp reads
      exact .set given no_null reads
  · next taken =>
    cases h
    cases takes_of_optional taken with
    | default absent =>
      rw [if_neg (by simp [Members.has_eq_false_iff.mpr absent])]
      exact .keep absent
    | value given reads =>
      rw [if_pos (Members.has_iff.mpr ⟨_, given⟩)]
      exact .clear (readNullable_eq_none.mp reads ▸ given)

/-- A form that is read as a new document has the fields of the document. -/
theorem isNewDocument_of_newDocument {new : NewDocument} (h : newDocument body = .ok new) :
    IsNewDocument body new := by
  unfold newDocument at h
  dsimp only at h
  split at h
  · next name version active notes content named versioned activated noted contained =>
    cases h
    obtain ⟨v, given, reads⟩ := required_eq_ok.mp named
    obtain ⟨w, given', reads'⟩ := required_eq_ok.mp contained
    have text : v = .str name := by
      unfold readName at reads
      split at reads
      · cases reads
      · next t is_text =>
        split at reads
        · cases reads
        · split at reads
          · cases reads
          · cases reads
            exact readText_eq_ok.mp is_text
    exact ⟨text ▸ given, takes_of_optional versioned, takes_of_optional activated,
      takes_of_optional noted, readText_eq_ok.mp reads' ▸ given'⟩
  · cases h

/-- A form that is read as a change has what the change asks for. -/
theorem isDocumentChange_of_documentChange {c : DocumentChange} (h : documentChange body = .ok c) :
    IsDocumentChange body c := by
  unfold documentChange at h
  dsimp only at h
  split at h
  · next active notes activated noted =>
    cases h
    exact ⟨asks_of_changeable activated, asks_of_changeable noted⟩
  · cases h

end Form

/-! ## Creations and changes -/

/-- What a creation makes of a document that is there. -/
def NewDocument.givenWay (new : NewDocument) (x : StoredDocument) : StoredDocument :=
  if new.active = true ∧ x.name = new.name then { x with active := false } else x

/-- What a change makes of the document that it is for. -/
def DocumentChange.applied (c : DocumentChange) (d : StoredDocument) : StoredDocument :=
  { d with active := (c.active.over (some d.active)).getD d.active, notes := c.notes.over d.notes }

/-- What a change of a document makes of each document. -/
def DocumentChange.affected (c : DocumentChange) (target x : StoredDocument) : StoredDocument :=
  if x.id = target.id then c.applied x
  else if c.active = .set true ∧ x.name = target.name then { x with active := false }
  else x

/-- Giving way to a new document keeps the name. -/
theorem NewDocument.name_givenWay (new : NewDocument) (x : StoredDocument) :
    (new.givenWay x).name = x.name := by
  unfold NewDocument.givenWay
  split <;> rfl

/-- Documents of other names do not give way. -/
theorem NewDocument.givenWay_of_other_name (new : NewDocument) {x : StoredDocument}
    (other : x.name ≠ new.name) : new.givenWay x = x := by
  simp [NewDocument.givenWay, other]

namespace Registry

variable {r after : Registry} {new : NewDocument} {c e : DocumentChange} {d d' x a b : StoredDocument}

/-- Documents are prepared one by one: those that have to give way become inactive. -/
theorem prepared_eq_map (becomesActive : Bool) (name : Text) (kept : Option Nat)
    (documents : List StoredDocument) :
    prepared becomesActive name kept documents = documents.map fun x =>
      if becomesActive = true ∧ x.name = name ∧ some x.id ≠ kept then { x with active := false }
      else x := by
  cases becomesActive with
  | true => simp [prepared, deactivateOthers]
  | false => simp [prepared]

/-- A creation lets the others give way and adds its document. -/
theorem Created.documents_eq (write : Created r new d after) :
    after.documents = r.documents.map new.givenWay ++ [d] := by
  rw [write.registry, prepared_eq_map]
  simp [NewDocument.givenWay]

/-- A change keeps the identifier of every document. -/
theorem id_affected (c : DocumentChange) (target x : StoredDocument) :
    (c.affected target x).id = x.id := by
  unfold DocumentChange.affected
  split
  · rfl
  · split <;> rfl

/-- A change keeps the name of every document. -/
theorem name_affected (c : DocumentChange) (target x : StoredDocument) :
    (c.affected target x).name = x.name := by
  unfold DocumentChange.affected
  split
  · rfl
  · split <;> rfl

/-- A change that asks for nothing changes nothing. -/
theorem affected_by_nothing (target x : StoredDocument) :
    DocumentChange.affected {} target x = x := by
  simp [DocumentChange.affected, DocumentChange.applied, Change.over]

/-- Documents of different names have different identifiers. -/
theorem Sound.id_ne (sound : r.Sound) (mem_a : a ∈ r.documents) (mem_b : b ∈ r.documents)
    (other : a.name ≠ b.name) : a.id ≠ b.id := by
  intro same
  exact other (congrArg StoredDocument.name (sound.eq_of_id mem_a mem_b same))

/-- A change does not touch documents of other names. -/
theorem affected_of_other_name (other : x.name ≠ d.name) (different : x.id ≠ d.id) :
    c.affected d x = x := by
  simp [DocumentChange.affected, other, different]

/-- A changed document is its former self with the change applied. -/
theorem Changed.applied_eq (write : Changed r d c d' after) : d' = c.applied d := by
  rw [write.document, DocumentChange.applied, write.active, write.notes]
  rfl

/-- A change acts on each document by itself. -/
theorem Changed.registry_eq (write : Changed r d c d' after) (sound : r.Sound)
    (mem : d ∈ r.documents) :
    after = { r with documents := r.documents.map (c.affected d) } := by
  rw [write.registry, prepared_eq_map, List.map_map]
  congr 1
  apply List.map_congr_left
  intro x listed
  simp only [Function.comp_apply, DocumentChange.affected, decide_eq_true_eq]
  by_cases same : x.id = d.id
  · obtain rfl := sound.eq_of_id listed mem same
    simp [write.applied_eq]
  · simp only [ne_eq, Option.some.injEq, same, not_false_eq_true, and_true, if_false]
    split <;> simp

/-- Whatever else a document of another name is affected by, the target's change leaves it alone. -/
theorem affected_comm_of_other_name (other : x.name ≠ d.name) (different : x.id ≠ d.id)
    (target : StoredDocument) :
    c.affected d (e.affected target x) = e.affected target (c.affected d x) := by
  rw [affected_of_other_name other different]
  apply affected_of_other_name
  · rw [name_affected]
    exact other
  · rw [id_affected]
    exact different

/-- Changes of documents of different names may be made in either order. -/
theorem affected_comm (sound : r.Sound) (mem_a : a ∈ r.documents) (mem_b : b ∈ r.documents)
    (other : a.name ≠ b.name) (listed : x ∈ r.documents) :
    c.affected a (e.affected b x) = e.affected b (c.affected a x) := by
  -- No document has the names of both targets, so one of the two changes leaves it alone.
  by_cases named : x.name = a.name
  · have no_b : x.name ≠ b.name := named.trans_ne other
    exact (affected_comm_of_other_name no_b (sound.id_ne listed mem_b no_b) a).symm
  · exact affected_comm_of_other_name named (sound.id_ne listed mem_a named) b

end Registry

end Rulebook
