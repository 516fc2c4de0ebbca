import Rulebook.Registry.Store
import Mathlib

/-!
# Writes to the registry

What a write does to the documents if it succeeds. Creating a document adds it at the end under the
next identifier, and changing one replaces it in place; where the document becomes active, the others
of its name are inactive afterwards. Proofs use `create_eq_ok` and `change_eq_ok` and do not look into
the writes.

From there on the file says which documents of a name are active after a write, and that the writes
keep the registry sound: identifiers count up from one, and every text can be encoded.
-/

set_option autoImplicit false

namespace Rulebook

/-- What a field that may have a value has after a change. -/
def Change.over {α : Type} (old : Option α) : Change α → Option α
  | .keep => old
  | .clear => none
  | .set value => some value

/-- The document that is kept of a new one under an identifier. -/
def NewDocument.stored (new : NewDocument) (id : Nat) : StoredDocument :=
  { id, name := new.name, version := new.version, active := new.active, content := new.content
    notes := new.notes, created := new.created }

/-- Whether the texts of a document can be encoded. -/
structure StoredDocument.IsEncodable (d : StoredDocument) : Prop where
  name : d.name.isEncodable = true
  content : d.content.isEncodable = true
  notes : d.notes.all Text.isEncodable = true

namespace Registry

variable {r after : Registry} {new : NewDocument} {c : DocumentChange} {d d' : StoredDocument}

/-! ## Making others inactive -/

/-- Making others inactive changes nothing else of a document. -/
theorem eq_of_mem_deactivateOthers {name : Text} {kept : Option Nat}
    {documents : List StoredDocument} (h : d ∈ deactivateOthers name kept documents) :
    ∃ old ∈ documents, d = { old with active := d.active } := by
  obtain ⟨old, mem, rfl⟩ := List.mem_map.mp h
  refine ⟨old, mem, ?_⟩
  split <;> rfl

/-- The active documents that remain are those of other names and the one that is kept. -/
theorem mem_deactivateOthers_of_active {name : Text} {kept : Option Nat}
    {documents : List StoredDocument} (active : d.active = true) :
    d ∈ deactivateOthers name kept documents ↔
      d ∈ documents ∧ (d.name = name → some d.id = kept) := by
  constructor
  · intro h
    obtain ⟨old, mem, rfl⟩ := List.mem_map.mp h
    split at active
    · cases active
    · next spared =>
      rw [if_neg spared]
      refine ⟨mem, fun named => ?_⟩
      exact Decidable.not_not.mp fun other => spared ⟨named, other⟩
  · rintro ⟨mem, only⟩
    refine List.mem_map.mpr ⟨d, mem, if_neg ?_⟩
    rintro ⟨named, other⟩
    exact other (only named)

/-- What does not see whether documents are active is the same after others are deactivated. -/
theorem map_deactivateOthers {α : Type} {f : StoredDocument → α}
    (blind : ∀ d active, f { d with active } = f d) {name : Text} {kept : Option Nat}
    {documents : List StoredDocument} :
    (deactivateOthers name kept documents).map f = documents.map f := by
  rw [deactivateOthers, List.map_map]
  refine List.map_congr_left fun d _ => ?_
  rw [Function.comp_apply]
  split
  · exact blind d false
  · rfl

/-- Deactivating others neither takes nor frees a key. -/
theorem has_deactivateOthers {name other : Text} {kept : Option Nat} {version : Int}
    {documents : List StoredDocument} :
    has (deactivateOthers name kept documents) other version = has documents other version := by
  rw [has, has, deactivateOthers, List.any_map]
  congr 1
  funext d
  rw [Function.comp_apply]
  split <;> rfl

/-- The documents that a write of a name starts from: if the written document becomes active, the
others of the name are inactive. -/
def prepared (becomesActive : Bool) (name : Text) (kept : Option Nat)
    (documents : List StoredDocument) : List StoredDocument :=
  if becomesActive then deactivateOthers name kept documents else documents

/-- What does not tell whether a document is active is the same of the documents that a write starts
from. -/
theorem map_prepared {α : Type} {f : StoredDocument → α}
    (blind : ∀ d active, f { d with active } = f d) {becomesActive : Bool} {name : Text}
    {kept : Option Nat} {documents : List StoredDocument} :
    (prepared becomesActive name kept documents).map f = documents.map f := by
  cases becomesActive with
  | true => exact map_deactivateOthers blind
  | false => rfl

/-- Preparing documents keeps their identifiers. -/
theorem map_id_prepared {becomesActive : Bool} {name : Text} {kept : Option Nat}
    {documents : List StoredDocument} :
    (prepared becomesActive name kept documents).map StoredDocument.id =
      documents.map StoredDocument.id :=
  map_prepared fun _ _ => rfl

/-- Preparing documents neither takes nor frees a key. -/
theorem has_prepared {becomesActive : Bool} {name other : Text} {kept : Option Nat} {version : Int}
    {documents : List StoredDocument} :
    has (prepared becomesActive name kept documents) other version =
      has documents other version := by
  cases becomesActive with
  | true => exact has_deactivateOthers
  | false => rfl

/-- A document that a write starts from is one of the documents, but for being active. -/
theorem eq_of_mem_prepared {becomesActive : Bool} {name : Text} {kept : Option Nat}
    {documents : List StoredDocument} (h : d ∈ prepared becomesActive name kept documents) :
    ∃ old ∈ documents, d = { old with active := d.active } := by
  cases becomesActive with
  | true => exact eq_of_mem_deactivateOthers h
  | false => exact ⟨d, h, rfl⟩

/-- The active documents that a write starts from. -/
theorem mem_prepared_of_active {becomesActive : Bool} {name : Text} {kept : Option Nat}
    {documents : List StoredDocument} (active : d.active = true) :
    d ∈ prepared becomesActive name kept documents ↔
      d ∈ documents ∧ (becomesActive = true → d.name = name → some d.id = kept) := by
  cases becomesActive with
  | true => simpa [prepared] using mem_deactivateOthers_of_active active
  | false => simp [prepared]

/-! ## What the writes do -/

/-- Whether the registry can keep a new document under an identifier: its integers fit and its texts
can be encoded. -/
structure IsStorable (new : NewDocument) (id : Nat) : Prop where
  version : fits new.version = true
  identifier : fits id = true
  encodable : (new.stored id).IsEncodable

/-- What it means that a document is created. -/
structure Created (r : Registry) (new : NewDocument) (d : StoredDocument) (after : Registry) :
    Prop where
  document : d = new.stored (nextId (r.documents.map StoredDocument.id))
  storable : IsStorable new (nextId (r.documents.map StoredDocument.id))
  fresh : has r.documents new.name new.version = false
  registry : after = { r with documents := prepared new.active new.name none r.documents ++ [d] }

/-- What it means that a document is changed. -/
structure Changed (r : Registry) (d : StoredDocument) (c : DocumentChange) (d' : StoredDocument)
    (after : Registry) : Prop where
  document : d' = { d with active := d'.active, notes := d'.notes }
  active : c.active.over (some d.active) = some d'.active
  notes : c.notes.over d.notes = d'.notes
  encodable : d'.notes.all Text.isEncodable = true
  registry : after = { r with
    documents := (prepared (c.active = .set true) d.name (some d.id) r.documents).map fun x =>
      if x.id = d.id then d' else x }

/-- A document can be stored if its integers fit and its texts can be encoded. -/
theorem isStorable_iff {id : Nat} : IsStorable new id ↔
    (fits new.version && fits id) = true ∧
      (new.name.isEncodable && new.content.isEncodable && new.notes.all Text.isEncodable) = true := by
  simp only [Bool.and_eq_true]
  constructor
  · intro h
    exact ⟨⟨h.version, h.identifier⟩, ⟨h.encodable.name, h.encodable.content⟩, h.encodable.notes⟩
  · rintro ⟨⟨version, identifier⟩, ⟨name, content⟩, notes⟩
    exact ⟨version, identifier, ⟨name, content, notes⟩⟩

/-- A document that can be kept is added unless one of its name and version is there. -/
theorem insert_of_isStorable {documents : List StoredDocument}
    (h : IsStorable new (nextId (documents.map StoredDocument.id))) :
    insert new documents =
      if has documents new.name new.version then .error .duplicate
      else
        .ok (new.stored (nextId (documents.map StoredDocument.id)),
          documents ++ [new.stored (nextId (documents.map StoredDocument.id))]) := by
  obtain ⟨integers, texts⟩ := isStorable_iff.mp h
  simp only [insert, integers, texts, Bool.not_true, Bool.false_eq_true, if_false]
  rfl

/-- A document that cannot be kept is refused before anything is looked up. -/
theorem insert_of_not_isStorable {documents : List StoredDocument}
    (h : ¬ IsStorable new (nextId (documents.map StoredDocument.id))) :
    ∃ fault, fault ≠ .duplicate ∧ insert new documents = .error fault := by
  rw [isStorable_iff, not_and_or, Bool.not_eq_true, Bool.not_eq_true] at h
  unfold insert
  dsimp only
  by_cases integers :
      (fits new.version && fits (nextId (documents.map StoredDocument.id))) = true
  · have texts := h.resolve_left (by rw [integers]; exact Bool.true_eq_false.mp)
    exact ⟨.unencodable, by decide, by rw [integers, texts]; rfl⟩
  · rw [Bool.not_eq_true] at integers
    exact ⟨.outOfRange, by decide, by rw [integers]; rfl⟩

/-- Creating a document is adding it to the documents that the write starts from. -/
theorem create_eq_map : r.create new =
    (insert new (prepared new.active new.name none r.documents)).map fun added =>
      (added.1, { r with documents := added.2 }) := by
  have start : (if new.active = true then deactivateOthers new.name none r.documents
      else r.documents) = prepared new.active new.name none r.documents := rfl
  unfold create
  dsimp only
  rw [start]
  cases insert new (prepared new.active new.name none r.documents) <;> rfl

/-- A document that can be kept is created unless one of its name and version is there. -/
theorem create_of_isStorable
    (h : IsStorable new (nextId (r.documents.map StoredDocument.id))) :
    r.create new =
      if has r.documents new.name new.version then .error .duplicate
      else
        .ok (new.stored (nextId (r.documents.map StoredDocument.id)),
          { r with documents := prepared new.active new.name none r.documents ++
              [new.stored (nextId (r.documents.map StoredDocument.id))] }) := by
  have start : IsStorable new (nextId
      ((prepared new.active new.name none r.documents).map StoredDocument.id)) := by
    rw [map_id_prepared]
    exact h
  rw [create_eq_map, insert_of_isStorable start, has_prepared, map_id_prepared]
  split <;> rfl

/-- What cannot be stored is refused for another reason than its key. -/
theorem create_of_not_isStorable
    (h : ¬ IsStorable new (nextId (r.documents.map StoredDocument.id))) :
    ∃ fault, fault ≠ .duplicate ∧ r.create new = .error fault := by
  have start : ¬ IsStorable new (nextId
      ((prepared new.active new.name none r.documents).map StoredDocument.id)) := by
    rw [map_id_prepared]
    exact h
  obtain ⟨fault, other, refused⟩ := insert_of_not_isStorable start
  exact ⟨fault, other, by rw [create_eq_map, refused]; rfl⟩

/-- Creating a document succeeds exactly if it can be kept and none of its name and version is
there. -/
theorem create_eq_ok : r.create new = .ok (d, after) ↔ Created r new d after := by
  constructor
  · intro h
    by_cases storable : IsStorable new (nextId (r.documents.map StoredDocument.id))
    · rw [create_of_isStorable storable] at h
      split at h
      · cases h
      · next fresh =>
        cases h
        exact ⟨rfl, storable, Bool.not_eq_true _ ▸ fresh, rfl⟩
    · obtain ⟨fault, -, refused⟩ := create_of_not_isStorable storable
      rw [refused] at h
      cases h
  · rintro ⟨rfl, storable, fresh, rfl⟩
    rw [create_of_isStorable storable, fresh]
    rfl

namespace Created

/-- A new document has the next identifier. -/
theorem id_eq (h : Created r new d after) :
    d.id = nextId (r.documents.map StoredDocument.id) := by
  rw [h.document, NewDocument.stored]

/-- A new document has the name that was asked for. -/
theorem name_eq (h : Created r new d after) : d.name = new.name := by
  rw [h.document, NewDocument.stored]

/-- A new document has the version that was asked for. -/
theorem version_eq (h : Created r new d after) : d.version = new.version := by
  rw [h.document, NewDocument.stored]

/-- The texts of a new document can be encoded. -/
theorem encodable (h : Created r new d after) : d.IsEncodable := by
  rw [h.document]
  exact h.storable.encodable

/-- After a creation the documents are the prepared ones and the new one. -/
theorem mem_documents (h : Created r new d after) {x : StoredDocument} :
    x ∈ after.documents ↔ x ∈ prepared new.active new.name none r.documents ∨ x = d := by
  rw [h.registry, List.mem_append, List.mem_singleton]

/-- What does not see whether documents are active sees a creation add one document. -/
theorem map_documents (h : Created r new d after) {α : Type} {f : StoredDocument → α}
    (blind : ∀ x active, f { x with active } = f x) :
    after.documents.map f = r.documents.map f ++ [f d] := by
  rw [h.registry, List.map_append, map_prepared blind, List.map_singleton]

end Created

/-- A document can be changed exactly if its notes can be encoded and whether it is active is not
cleared. -/
theorem changed_eq_ok : changed d c = .ok d' ↔
    d' = { d with active := d'.active, notes := d'.notes } ∧
      c.active.over (some d.active) = some d'.active ∧ c.notes.over d.notes = d'.notes ∧
      d'.notes.all Text.isEncodable = true := by
  have unfolded : changed d c =
      if !(c.notes.over d.notes).all Text.isEncodable then .error .unencodable
      else
        (c.active.over (some d.active)).elim (.error .nullField) fun active =>
          .ok { d with active, notes := c.notes.over d.notes } := by
    rw [changed]
    cases c.notes <;> cases c.active <;> rfl
  rw [unfolded]
  constructor
  · intro h
    split at h
    · cases h
    · next encodable =>
      rw [Bool.not_eq_true', Bool.not_eq_false] at encodable
      cases active : c.active.over (some d.active) with
      | none =>
        rw [active] at h
        cases h
      | some value =>
        rw [active] at h
        cases h
        exact ⟨rfl, rfl, rfl, encodable⟩
  · rintro ⟨document, active, notes, encodable⟩
    rw [← notes] at encodable
    rw [if_neg (by rw [encodable]; exact Bool.false_ne_true), active, notes]
    exact congrArg Except.ok document.symm

/-- Changing a document of the registry succeeds exactly if the document can be changed. -/
theorem change_eq_ok : r.change d c = .ok (d', after) ↔ Changed r d c d' after := by
  have replaced : r.change d c = .ok (d', after) ↔ changed d c = .ok d' ∧
      after = { r with
        documents := (prepared (c.active = .set true) d.name (some d.id) r.documents).map fun x =>
          if x.id = d.id then d' else x } := by
    rw [change]
    cases changed d c with
    | error fault => simp
    | ok changed =>
      simp only [Except.ok.injEq, Prod.mk.injEq, prepared, decide_eq_true_eq]
      constructor
      · rintro ⟨rfl, rfl⟩
        exact ⟨rfl, rfl⟩
      · rintro ⟨rfl, rfl⟩
        exact ⟨rfl, rfl⟩
  rw [replaced, changed_eq_ok]
  constructor
  · rintro ⟨⟨document, active, notes, encodable⟩, registry⟩
    exact ⟨document, active, notes, encodable, registry⟩
  · intro h
    exact ⟨⟨h.document, h.active, h.notes, h.encodable⟩, h.registry⟩

/-- A document can be changed unless whether it is active is cleared or the notes that it is to have
cannot be encoded. -/
theorem exists_change_eq_ok : (∃ result, r.change d c = .ok result) ↔
    c.active ≠ .clear ∧ (c.notes.over d.notes).all Text.isEncodable = true := by
  constructor
  · rintro ⟨⟨d', after⟩, written⟩
    have write := change_eq_ok.mp written
    refine ⟨fun cleared => ?_, ?_⟩
    · have active := write.active
      rw [cleared] at active
      cases active
    · rw [write.notes]
      exact write.encodable
  · rintro ⟨kept, encodable⟩
    obtain ⟨active, becomes⟩ : ∃ active, c.active.over (some d.active) = some active := by
      cases change : c.active with
      | keep => exact ⟨d.active, rfl⟩
      | set value => exact ⟨value, rfl⟩
      | clear => exact absurd change kept
    let d' : StoredDocument := { d with active, notes := c.notes.over d.notes }
    exact ⟨(d', _), change_eq_ok.mpr ⟨rfl, becomes, rfl, encodable, rfl⟩⟩

namespace Changed

/-- A change keeps the identifier of its target. -/
theorem id_eq (h : Changed r d c d' after) : d'.id = d.id := by
  rw [h.document]

/-- A change keeps the name of its target. -/
theorem name_eq (h : Changed r d c d' after) : d'.name = d.name := by
  rw [h.document]

/-- A change keeps the content of its target. -/
theorem content_eq (h : Changed r d c d' after) : d'.content = d.content := by
  rw [h.document]

/-- Once a document is changed the registry has the changed document and the others that the write
starts from. -/
theorem mem_documents (h : Changed r d c d' after) (mem : d ∈ r.documents) {x : StoredDocument} :
    x ∈ after.documents ↔
      x = d' ∨ x ∈ prepared (c.active = .set true) d.name (some d.id) r.documents ∧ x.id ≠ d.id := by
  rw [h.registry, List.mem_map]
  constructor
  · rintro ⟨old, prior, rfl⟩
    split
    · exact Or.inl rfl
    · next other => exact Or.inr ⟨prior, other⟩
  · rintro (rfl | ⟨prior, other⟩)
    · have listed : d.id ∈ (prepared (c.active = .set true) d.name (some d.id)
          r.documents).map StoredDocument.id := by
        rw [map_id_prepared]
        exact List.mem_map_of_mem mem
      obtain ⟨old, prior, same⟩ := List.mem_map.mp listed
      exact ⟨old, prior, if_pos same⟩
    · exact ⟨x, prior, if_neg other⟩

/-- A change leaves what is the same of the changed document, and does not tell whether a document is
active. -/
theorem map_documents (h : Changed r d c d' after) {α : Type} {f : StoredDocument → α}
    (blind : ∀ x active, f { x with active } = f x)
    (same : ∀ x ∈ r.documents, x.id = d.id → f d' = f x) :
    after.documents.map f = r.documents.map f := by
  rw [h.registry, List.map_map, ← map_prepared blind]
  refine List.map_congr_left fun x prior => ?_
  rw [Function.comp_apply]
  split
  · next replaced =>
    obtain ⟨old, mem, eq⟩ := eq_of_mem_prepared prior
    have replaces : old.id = d.id := by
      rw [eq] at replaced
      exact replaced
    rw [same old mem replaces, eq]
    exact (blind old x.active).symm
  · rfl

end Changed

/-! ## Soundness -/

/-- A registry whose identifiers count up from one to a number that fits in 64 bits, and whose texts
can all be encoded. -/
structure Sound (r : Registry) : Prop where
  ids : r.documents.map StoredDocument.id = List.range' 1 r.documents.length
  last : fits r.documents.length = true
  encodable : ∀ d ∈ r.documents, d.IsEncodable

/-- After identifiers that count up from one comes the next number. -/
theorem nextId_range' (n : Nat) : nextId (List.range' 1 n) = n + 1 := by
  have greatest : (List.range' 1 n).foldl max 0 = n := by
    induction n with
    | zero => rfl
    | succ n ih =>
      rw [List.range'_concat, List.foldl_append, ih]
      simp only [List.foldl_cons, List.foldl_nil]
      omega
  rw [nextId, greatest]

/-- The empty registry is sound. -/
theorem sound_empty : Sound {} where
  ids := rfl
  last := by decide
  encodable := fun _ mem => by cases mem

namespace Sound

/-- No two documents share an identifier. -/
theorem distinct (h : Sound r) : (r.documents.map StoredDocument.id).Nodup := by
  rw [h.ids]
  exact List.nodup_range'

/-- A document is the only one with its identifier. -/
theorem eq_of_id (h : Sound r) {a b : StoredDocument} (ha : a ∈ r.documents) (hb : b ∈ r.documents)
    (same : a.id = b.id) : a = b :=
  List.inj_on_of_nodup_map h.distinct ha hb same

/-- The identifiers are the numbers from one to that of the documents. -/
theorem id_bounds (h : Sound r) (mem : d ∈ r.documents) : 1 ≤ d.id ∧ d.id ≤ r.documents.length := by
  have listed : d.id ∈ r.documents.map StoredDocument.id := List.mem_map_of_mem mem
  rw [h.ids, List.mem_range'_1] at listed
  omega

/-- The identifiers of a sound registry fit into their column. -/
theorem fits_id (h : Sound r) (mem : d ∈ r.documents) : fits d.id = true := by
  have bounds := h.id_bounds mem
  have last := h.last
  unfold fits integerBound at last ⊢
  simp only [Bool.and_eq_true, decide_eq_true_eq] at last ⊢
  omega

/-- A document is found under its identifier. -/
theorem find?_id (h : Sound r) (mem : d ∈ r.documents) : r.find? d.id = some d := by
  cases found : r.find? d.id with
  | none =>
    have absent := List.find?_eq_none.mp found d mem
    simp at absent
  | some x =>
    have same : (x.id : Int) = d.id := by simpa using List.find?_some found
    have listed : x ∈ r.documents := List.mem_of_find?_eq_some found
    rw [h.eq_of_id listed mem (Int.ofNat.inj same)]

/-- The identifier that the next document gets. -/
theorem nextId_eq (h : Sound r) :
    nextId (r.documents.map StoredDocument.id) = r.documents.length + 1 := by
  rw [h.ids, nextId_range']

/-- Soundness depends on the documents alone. -/
theorem of_documents (h : Sound r) (same : after.documents = r.documents) : Sound after := by
  constructor
  · rw [same]
    exact h.ids
  · rw [same]
    exact h.last
  · rw [same]
    exact h.encodable

/-- The texts of a document can still be encoded if only whether it is active changes. -/
theorem encodable_of_mem_prepared (h : Sound r) {becomesActive : Bool} {name : Text}
    {kept : Option Nat} (mem : d ∈ prepared becomesActive name kept r.documents) :
    d.IsEncodable := by
  obtain ⟨old, mem, same⟩ := eq_of_mem_prepared mem
  have encodable := h.encodable old mem
  rw [same]
  exact ⟨encodable.name, encodable.content, encodable.notes⟩

/-- Creating a document keeps the registry sound. -/
theorem created (h : Sound r) (write : Created r new d after) : Sound after := by
  have next : d.id = r.documents.length + 1 := by rw [write.id_eq, h.nextId_eq]
  have ids : after.documents.map StoredDocument.id = r.documents.map StoredDocument.id ++ [d.id] :=
    write.map_documents fun _ _ => rfl
  have length : after.documents.length = r.documents.length + 1 := by
    have lengths := congrArg List.length ids
    simpa using lengths
  constructor
  · rw [length, List.range'_concat, ← h.ids, ids, next]
    congr 2
    omega
  · rw [length, ← h.nextId_eq]
    exact write.storable.identifier
  · intro x mem
    rcases write.mem_documents.mp mem with old | rfl
    · exact h.encodable_of_mem_prepared old
    · exact write.encodable

/-- Changing one of its documents keeps the registry sound. -/
theorem changed (h : Sound r) (mem : d ∈ r.documents) (write : Changed r d c d' after) :
    Sound after := by
  have kept : after.documents.map StoredDocument.id = r.documents.map StoredDocument.id :=
    write.map_documents (fun _ _ => rfl) fun _ _ same => write.id_eq.trans same.symm
  have length : after.documents.length = r.documents.length := by
    rw [← List.length_map StoredDocument.id, kept, List.length_map]
  constructor
  · rw [kept, length, h.ids]
  · rw [length]
    exact h.last
  · intro x listed
    rcases (write.mem_documents mem).mp listed with rfl | ⟨prior, -⟩
    · have encodable := h.encodable d mem
      refine ⟨?_, ?_, write.encodable⟩
      · rw [write.name_eq]
        exact encodable.name
      · rw [write.content_eq]
        exact encodable.content
    · exact h.encodable_of_mem_prepared prior

end Sound

/-! ## Active documents -/

/-- Whether the document with an identifier is an active one of a name. -/
def IsActive (r : Registry) (name : Text) (id : Int) : Prop :=
  ∃ d ∈ r.documents, d.name = name ∧ d.active = true ∧ (d.id : Int) = id

/-- Whether one of the documents of a sound registry is active is seen from its identifier. -/
theorem Sound.isActive_id (h : Sound r) (mem : d ∈ r.documents) {name : Text} :
    r.IsActive name d.id ↔ d.name = name ∧ d.active = true := by
  constructor
  · rintro ⟨x, listed, named, active, same⟩
    obtain rfl := h.eq_of_id listed mem (Int.ofNat.inj same)
    exact ⟨named, active⟩
  · rintro ⟨named, active⟩
    exact ⟨d, mem, named, active, rfl⟩

/-- The active documents of a name after a creation: the new one alone if it is active and of that
name, and otherwise those from before. -/
theorem isActive_of_created (write : Created r new d after) {name : Text} {id : Int} :
    after.IsActive name id ↔
      if new.active = true ∧ new.name = name then id = d.id else r.IsActive name id := by
  have named := write.name_eq
  have active : d.active = new.active := by rw [write.document, NewDocument.stored]
  split
  · next alone =>
    constructor
    · rintro ⟨x, listed, other, on, rfl⟩
      rcases write.mem_documents.mp listed with prior | rfl
      · have spared := ((mem_prepared_of_active on).mp prior).2 alone.1 (other.trans alone.2.symm)
        cases spared
      · rfl
    · rintro rfl
      exact ⟨d, write.mem_documents.mpr (Or.inr rfl), named.trans alone.2, active.trans alone.1, rfl⟩
  · next apart =>
    constructor
    · rintro ⟨x, listed, other, on, rfl⟩
      rcases write.mem_documents.mp listed with prior | rfl
      · exact ⟨x, ((mem_prepared_of_active on).mp prior).1, other, on, rfl⟩
      · exact absurd ⟨active.symm.trans on, named.symm.trans other⟩ apart
    · rintro ⟨x, listed, other, on, rfl⟩
      refine ⟨x, write.mem_documents.mpr (Or.inl ?_), other, on, rfl⟩
      refine (mem_prepared_of_active on).mpr ⟨listed, ?_⟩
      intro becomes same
      exact absurd ⟨becomes, same.symm.trans other⟩ apart

/-- Which documents of a name are active after a change: the changed one if it is so then, and another
one if it was so before and did not have to give way. -/
theorem isActive_of_changed (h : Sound r) (mem : d ∈ r.documents) (write : Changed r d c d' after)
    {name : Text} {id : Int} :
    after.IsActive name id ↔
      if id = d.id then d.name = name ∧ d'.active = true
      else r.IsActive name id ∧ ¬ (c.active = .set true ∧ d.name = name) := by
  split
  · next same =>
    have listed : d' ∈ after.documents := (write.mem_documents mem).mpr (Or.inl rfl)
    rw [same, ← write.id_eq, (h.changed mem write).isActive_id listed, write.name_eq]
  · next other =>
    constructor
    · rintro ⟨x, listed, named, active, rfl⟩
      rcases (write.mem_documents mem).mp listed with rfl | ⟨prior, -⟩
      · exact absurd (congrArg Int.ofNat write.id_eq) other
      · obtain ⟨prior, spared⟩ := (mem_prepared_of_active active).mp prior
        refine ⟨⟨x, prior, named, active, rfl⟩, ?_⟩
        rintro ⟨becomes, same⟩
        have := spared (decide_eq_true becomes) (named.trans same.symm)
        exact other (congrArg Int.ofNat (Option.some.inj this))
    · rintro ⟨⟨x, prior, named, active, rfl⟩, free⟩
      refine ⟨x, (write.mem_documents mem).mpr (Or.inr ⟨?_, ?_⟩), named, active, rfl⟩
      · refine (mem_prepared_of_active active).mpr ⟨prior, fun becomes same => ?_⟩
        exact absurd ⟨of_decide_eq_true becomes, same.symm.trans named⟩ free
      · exact fun same => other (congrArg Int.ofNat same)

end Registry

end Rulebook
