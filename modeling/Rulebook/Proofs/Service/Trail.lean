import Rulebook.Proofs.Json.Transmission
import Rulebook.Proofs.Lists
import Rulebook.Proofs.Service.Ledger
import Rulebook.Proofs.Service.Provenance

/-!
# The audit trail of a document

Of all entries in the ledger of a history those that concern one stored document are the entry of its
creation and then one for each time that it is validated again (`exists_trail`). Before its creation
none concerns it, because a request only owes entries about documents that are there afterwards, and
no creation after it takes its identifier again. The service answers with these entries when it is
asked for the audit log of the document.

Under one bound a stored document stays valid, so none of these validations finds a fault.
-/

set_option autoImplicit false

namespace Rulebook.Service

variable {bound : DepthBound} {r after : Registry} {request : Request} {d x : StoredDocument}

/-- Whether an entry concerns a document. -/
def Entry.concerns (id : Int) (e : Entry) : Bool := e.document = some id

/-- Whether a request is to validate a document again. -/
def revalidates (id : Int) (request : Request) : Bool :=
  match call request with
  | .ok (.revalidate other) => other = id
  | _ => false

/-- A request revalidates a document if it calls for that. -/
theorem revalidates_iff {id : Int} :
    revalidates id request = true ↔ call request = .ok (.revalidate id) := by
  unfold revalidates
  split
  · next other called => simp [called]
  · next unlike => simpa using unlike id

/-- The entry of a document that a request of a history validates again. -/
def rerun? (d : StoredDocument) (exchange : DepthBound × Request) : Option Entry :=
  if revalidates d.id exchange.2 then
    some (.run exchange.2.clock.recorded (some d.id) (validate exchange.1 (.value (.str d.content))))
  else none

/-- The entries of a history on the revalidations of a document. -/
def reruns (d : StoredDocument) (history : History) : List Entry := history.filterMap (rerun? d)

/-- Being active and its notes make no difference to the validations of a document. -/
theorem reruns_of_revision (h : x.IsRevisionOf d) (history : History) :
    reruns x history = reruns d history := by
  have same : rerun? x = rerun? d := by
    funext exchange
    rw [rerun?, rerun?, h.id_eq, h.content_eq]
  rw [reruns, reruns, same]

/-! ## One request -/

/-- What a request owes about a document that is there is the entry of its validation, if the request
validates it. -/
theorem filter_concerns_owed (bound : DepthBound) (request : Request) (sound : r.Sound)
    (mem : d ∈ r.documents) :
    (owed bound r { request, response := (handle bound r request).1 }).filter
      (Entry.concerns d.id) = (rerun? d (bound, request)).toList := by
  have owes := handle_owes bound request sound
  generalize owed bound r { request, response := (handle bound r request).1 } = entries at owes ⊢
  generalize (handle bound r request).2 = after at owes
  have unasked (other : call request ≠ .ok (.revalidate d.id)) : rerun? d (bound, request) = none :=
    if_neg fun asked => other (revalidates_iff.mp asked)
  cases owes with
  | nothing _ silent =>
    rw [unasked (silent d mem)]
    rfl
  | entry _ source =>
    cases source with
    | text called =>
      rw [unasked (by rw [called]; exact nofun)]
      rfl
    | rejection called =>
      rw [unasked (by rw [called]; exact nofun)]
      rfl
    | @creation new created called _ next =>
      -- A new document has an identifier beyond all that are there.
      have bounds := sound.id_bounds mem
      have other : (created.id : Int) ≠ d.id := by
        rw [next, sound.nextId_eq]
        omega
      rw [unasked (by rw [called]; exact nofun)]
      simp [Entry.concerns, Entry.stored, other]
    | @document validated called listed _ =>
      by_cases same : validated.id = d.id
      · obtain rfl := sound.eq_of_id listed mem same
        have asked : rerun? validated (bound, request) = some
            (.run request.clock.recorded (some validated.id)
              (validate bound (.value (.str validated.content)))) :=
          if_pos (revalidates_iff.mpr called)
        rw [asked]
        simp [Entry.concerns, Entry.run]
      · rw [unasked (by rw [called]; simpa using same)]
        simp [Entry.concerns, Entry.run, same]

/-- A document that a request owes an entry about is there afterwards. -/
theorem Source.exists_document {e : Entry} (source : Source bound r request after e) {id : Int}
    (concerned : e.document = some id) : ∃ x ∈ after.documents, (x.id : Int) = id := by
  cases source with
  | text called => cases concerned
  | rejection called => cases concerned
  | creation _ listed _ => exact ⟨_, listed, Option.some.inj concerned⟩
  | document _ listed same =>
    rw [same]
    exact ⟨_, listed, Option.some.inj concerned⟩

/-- A creation owes the entry that the document is stored. -/
theorem owed_of_creates {new : NewDocument} (created : Creates bound r request new d) :
    owed bound r { request, response := (handle bound r request).1 } =
      [.stored request.clock.recorded (some d.id) d.name d.version] := by
  have valid : (validate bound (.value (.str new.content))).isValid = true :=
    Verdict.isValid_iff.mpr created.valid
  have shown : (Response.mk 201 (.json d.toJson)).shownId? = some (d.id : Int) := rfl
  rw [created.confirmed, created.name_eq, created.version_eq, ← shown]
  simp only [owed, created.called, valid, Bool.not_true, Bool.false_eq_true, if_false, if_true]

/-! ## Histories -/

/-- A document that the ledger has an entry about is there at the end of the history. -/
theorem exists_document_of_mem_ledger (sound : r.Sound) {history : History} {e : Entry} {id : Int}
    (mem : e ∈ ledger r history) (concerned : e.document = some id) :
    ∃ x ∈ (registryAfter r history).documents, (x.id : Int) = id := by
  induction history generalizing r with
  | nil => cases mem
  | cons exchange rest ih =>
    obtain ⟨bound, request⟩ := exchange
    have sound_after := (handle_effect bound r request).sound sound
    rcases List.mem_append.mp mem with first | later
    · have owes := handle_owes bound request sound
      generalize owed bound r { request, response := (handle bound r request).1 } = entries at owes first
      cases owes with
      | nothing => cases first
      | entry _ source =>
        obtain rfl := List.mem_singleton.mp first
        obtain ⟨old, listed, rfl⟩ := source.exists_document concerned
        obtain ⟨x, there, revision⟩ := kept_registryAfter sound_after listed rest
        exact ⟨x, there, congrArg Int.ofNat revision.id_eq⟩
    · exact ih sound_after later

/-- The entries about a document that is there from the start are those of its validations. -/
theorem filter_concerns_ledger (sound : r.Sound) (mem : d ∈ r.documents) (history : History) :
    (ledger r history).filter (Entry.concerns d.id) = reruns d history := by
  induction history generalizing r d with
  | nil => rfl
  | cons exchange rest ih =>
    obtain ⟨bound, request⟩ := exchange
    have sound_after := (handle_effect bound r request).sound sound
    obtain ⟨x, listed, revision⟩ := kept_handle bound request sound mem
    have later := ih sound_after listed
    rw [revision.id_eq, reruns_of_revision revision] at later
    rw [ledger, List.filter_append, filter_concerns_owed bound request sound mem, later, reruns,
      reruns, List.filterMap_cons]
    cases rerun? d (bound, request) <;> rfl

/-- The entries about a stored document are that of its creation and then those of its validations
since. -/
theorem exists_trail {history : History} (mem : x ∈ (registryAfter {} history).documents) :
    ∃ before bound request since new d, history = before ++ (bound, request) :: since ∧
      Creates bound (registryAfter {} before) request new d ∧ x.IsRevisionOf d ∧
      (ledger {} history).filter (Entry.concerns x.id) =
        .stored request.clock.recorded (some x.id) x.name x.version :: reruns x since := by
  obtain ⟨before, bound, request, since, new, d, rfl, created, revision⟩ := exists_creation mem
  refine ⟨before, bound, request, since, new, d, rfl, created, revision, ?_⟩
  have sound := sound_after before
  -- An entry before the creation would be about a document with the identifier of the next one.
  have earlier : (ledger {} before).filter (Entry.concerns d.id) = [] := by
    refine List.filter_eq_nil_iff.mpr fun e listed concerned => ?_
    obtain ⟨old, there, same⟩ := exists_document_of_mem_ledger Registry.sound_empty listed
      (of_decide_eq_true concerned)
    have bounds := sound.id_bounds there
    have next := created.id_eq
    omega
  have later : (ledger (handle bound (registryAfter {} before) request).2 since).filter
      (Entry.concerns d.id) = reruns d since :=
    filter_concerns_ledger ((handle_effect bound _ request).sound sound) created.listed since
  rw [revision.id_eq, revision.name_eq, revision.version_eq, reruns_of_revision revision,
    ledger_append, List.filter_append, earlier, ledger, List.filter_append, later,
    owed_of_creates created]
  simp [Entry.concerns, Entry.stored]

/-! ## Answers -/

namespace Entry

/-- The record of an entry as an answer shows it. -/
def shown (e : Entry) (id : Nat) : Json :=
  .obj [
    ("id", .int id),
    ("timestamp", .str e.time.text),
    ("document_id", (e.document.map Json.int).getD .null),
    ("event_type", .str e.event),
    ("payload", .obj e.payload)]

/-- Whether the record of an entry can be shown and sent. -/
structure IsShowable (e : Entry) : Prop where
  event : e.event.isEncodable = true
  payload : (Json.obj e.payload).isTransmissible = true
  height : (Json.obj e.payload).height ≤ payloadHeight

variable {e : Entry}

/-- The record of an entry that can be shown is shown as the entry says. -/
theorem toJson_record (h : e.IsShowable) (id : Nat) : (e.record id).toJson = .ok (e.shown id) := by
  have document : Cell.shown (e.document.map .integer) =
      .ok ((e.document.map Json.int).getD .null) := by
    cases e.document <;> rfl
  have payload : (e.record id).shownPayload = .ok (.obj e.payload) := if_neg (by
    have within := h.height
    simp only [record]
    omega)
  rw [AuditRecord.toJson, payload]
  simp only [record, document]
  rfl

/-- What is shown of an entry can be sent. -/
theorem isTransmissible_shown (h : e.IsShowable) (id : Nat) :
    (e.shown id).isTransmissible = true := by
  have document : ((e.document.map Json.int).getD .null).isTransmissible = true := by
    cases e.document <;> rfl
  have time : (Json.str e.time.text).isTransmissible = true :=
    Json.isTransmissible_str.trans (Time.isAscii_text e.time).isEncodable
  refine Json.isTransmissible_obj.mpr ?_
  simp only [List.forall_mem_cons]
  exact ⟨⟨by decide, rfl⟩, ⟨by decide, time⟩, ⟨by decide, document⟩, ⟨by decide, h.event⟩,
    ⟨by decide, h.payload⟩, nofun⟩

/-- The entry that a document is stored can be shown if the name can be encoded. -/
theorem isShowable_stored {time : Time} {document : Option Int} {name : Text} {version : Int}
    (encodable : name.isEncodable = true) : (stored time document name version).IsShowable where
  event := by
    change storedEvent.isEncodable = true
    decide
  payload := by
    refine Json.isTransmissible_obj.mpr ?_
    simp only [stored, versionMembers, List.forall_mem_cons]
    exact ⟨⟨by decide, encodable⟩, ⟨by decide, rfl⟩, nofun⟩
  height := by
    have flat : (Json.obj (versionMembers name version)).height = 2 := rfl
    rw [stored, flat]
    decide

/-- The entry of a validation can be shown unless its text could not be read. -/
theorem isShowable_run {time : Time} {document : Option Int} {verdict : Verdict}
    (readable : verdict.critical? = none) : (run time document verdict).IsShowable where
  event := by
    change validationEvent.isEncodable = true
    decide
  payload := by
    refine Json.isTransmissible_obj.mpr ?_
    simp only [run, Verdict.summary, readable, List.forall_mem_cons]
    exact ⟨⟨by decide, rfl⟩, ⟨by decide, rfl⟩, ⟨by decide, rfl⟩, nofun⟩
  height := by
    have flat : (Json.obj verdict.summary).height = 2 := by
      rw [Verdict.summary, readable]
      rfl
    rw [run, flat]
    decide

end Entry

/-- The entries that concern a document, with their numbers. -/
def trail (id : Int) (entries : List Entry) : List (Entry × Nat) :=
  (entries.zipIdx 1).filter fun e => e.1.concerns id

/-- The entries of a trail are those of the ledger that concern the document. -/
theorem map_fst_trail (id : Int) (entries : List Entry) :
    (trail id entries).map Prod.fst = entries.filter (Entry.concerns id) := by
  have numbered : (entries.zipIdx 1).map Prod.fst = entries := List.zipIdx_map_fst 1 entries
  rw [trail]
  conv_rhs => rw [← numbered, List.filter_map]
  rfl

/-- The log of a document is the records of its trail. -/
theorem auditOf_eq {entries : List Entry} (kept : r.audit = records entries) (id : Int) :
    r.auditOf (.integer id) = (trail id entries).map fun e => e.1.record e.2 := by
  rw [Registry.auditOf, kept, records, List.filter_map, trail]
  congr 2
  funext e
  cases concerned : e.1.document with
  | none => simp [Entry.record, Entry.concerns, concerned]
  | some other => simp [Entry.record, Entry.concerns, concerned, Cell.same, eq_comm]

/-- A trail whose entries can be shown is sent. -/
theorem auditResponse_of_isShowable {entries : List (Entry × Nat)}
    (showable : ∀ e ∈ entries, e.1.IsShowable) :
    auditResponse (entries.map fun e => e.1.record e.2) =
      { status := 200, body := .json (.arr (entries.map fun e => e.1.shown e.2)) } := by
  have shown : (entries.map fun e => e.1.record e.2).mapM AuditRecord.toJson =
      .ok (entries.map fun e => e.1.shown e.2) := by
    rw [List.mapM_map]
    exact mapM_eq_ok fun e mem => Entry.toJson_record (showable e mem) e.2
  have transmissible : (Json.arr (entries.map fun e => e.1.shown e.2)).isTransmissible = true := by
    refine Json.isTransmissible_arr.mpr fun item mem => ?_
    obtain ⟨e, listed, rfl⟩ := List.mem_map.mp mem
    exact Entry.isTransmissible_shown (showable e listed) e.2
  rw [auditResponse, shown]
  dsimp only
  rw [Json.finitePart_eq_self transmissible, Response.value_of_isTransmissible transmissible]

/-- The entries about a stored document can all be shown: its name has been kept, and its text has
been read. -/
theorem isShowable_of_mem_trail {history : History}
    (stored : x ∈ (registryAfter {} history).documents) :
    ∀ e ∈ trail x.id (ledger {} history), e.1.IsShowable := by
  intro e mem
  obtain ⟨before, bound, request, since, new, d, -, created, revision, entries⟩ := exists_trail stored
  have listed : e.1 ∈ (trail x.id (ledger {} history)).map Prod.fst := List.mem_map_of_mem mem
  rw [map_fst_trail, entries, List.mem_cons] at listed
  rcases listed with first | later
  · rw [first]
    exact Entry.isShowable_stored ((sound_after history).encodable x stored).name
  · obtain ⟨⟨b, q⟩, -, asked⟩ := List.mem_filterMap.mp later
    obtain ⟨ruleSets, read⟩ := exists_parse_of_valid created.valid
    rw [← created.content_eq, ← revision.content_eq] at read
    unfold rerun? at asked
    split at asked
    · rw [← Option.some.inj asked]
      exact Entry.isShowable_run (critical?_validate read)
    · cases asked

/-- The answer on the log of a document that is there is its records. -/
theorem answer_audit_of_fetch {now : Time} {id : Int} (found : r.fetch id = .ok (some d)) :
    (answer bound r now (.audit id)).1 = auditResponse (r.auditOf (.integer d.id)) := by
  rw [answer, withDocument_of_found found]

/-- The audit log of a stored document is answered with its entries. -/
theorem answer_audit (bound : DepthBound) (now : Time) {history : History}
    (stored : x ∈ (registryAfter {} history).documents) :
    (answer bound (registryAfter {} history) now (.audit x.id)).1 =
      { status := 200
        body := .json (.arr ((trail x.id (ledger {} history)).map fun e => e.1.shown e.2)) } := by
  have found := (sound_after history).fetch_id stored
  rw [answer_audit_of_fetch found, auditOf_eq (audit_registryAfter history),
    auditResponse_of_isShowable (isShowable_of_mem_trail stored)]

/-! ## One bound -/

/-- Under one bound each validation of a valid document since leaves the same entry but for its time. -/
theorem reruns_under (valid : validate bound (.value (.str x.content)) = .valid)
    (requests : List Request) :
    reruns x (under bound requests) = (requests.filter (revalidates x.id)).map fun request =>
      .run request.clock.recorded (some x.id) .valid := by
  induction requests with
  | nil => rfl
  | cons request rest ih =>
    have next : reruns x (under bound (request :: rest)) =
        (rerun? x (bound, request)).toList ++ reruns x (under bound rest) := by
      rw [reruns, under, List.map_cons, List.filterMap_cons]
      cases rerun? x (bound, request) <;> rfl
    rw [next, ih, rerun?, valid, List.filter_cons]
    split
    · rfl
    · rfl

/-- The parts of pairs put together again. -/
theorem eq_of_map_fst {α β : Type} {pairs : List (α × β)} {a : α} {as : List α}
    (h : pairs.map Prod.fst = a :: as) :
    ∃ (first : β) (rest : List β), rest.length = as.length ∧ pairs = (a, first) :: as.zip rest := by
  obtain ⟨⟨_, first⟩, tail, rfl, rfl, rfl⟩ := List.map_eq_cons_iff.mp h
  refine ⟨first, tail.map Prod.snd, by simp, ?_⟩
  rw [List.zip_map']
  simp

/-- The audit log is the ledger of the requests, with numbers from one on. For a stored document it
holds one entry of its creation and then one for each time that the document has been validated since,
never with a fault and each with the time of its request; these are the records that the service answers
with for the document. -/
theorem audit_log_is_ledger (limit : Int) (requests : List Request) :
    let reached (requests : List Request) := registryAfter {} (under (.integer limit) requests)
    let entries := ledger {} (under (.integer limit) requests)
    (reached requests).audit = records entries ∧
    ∀ d ∈ (reached requests).documents,
      let creation (request : Request) : Entry := {
        document := some d.id, event := "RULE_SET_STORED"
        payload := [("name", .str d.name), ("version", .int d.version)]
        time := request.clock.recorded }
      let validation (request : Request) : Entry := {
        document := some d.id, event := "VALIDATION_RUN"
        payload := [("valid", .bool true), ("error_count", .int 0), ("critical", .null)]
        time := request.clock.recorded }
      ∃ before request since new, ∃ (first : Nat) (numbers : List Nat),
        requests = before ++ request :: since ∧ call request = .ok (.create new) ∧
        (handle (.integer limit) (reached before) request).1 =
          { status := 201, body := .json (new.stored d.id).toJson } ∧
        numbers.length = since.countP (revalidates d.id) ∧
        trail d.id entries = (creation request, first) ::
          ((since.filter (revalidates d.id)).map validation).zip numbers ∧
        ∀ question, call question = .ok (.audit d.id) →
          (handle (.integer limit) (reached requests) question).1 =
            { status := 200
              body := .json (.arr ((creation request).shown first ::
                ((since.filter (revalidates d.id)).zip numbers).map fun e =>
                  (validation e.1).shown e.2)) } := by
  intro reached entries
  refine ⟨audit_registryAfter _, ?_⟩
  intro d stored creation validation
  obtain ⟨before, b, request, since, new, first, split, created, revision, listed⟩ :=
    exists_trail stored
  obtain ⟨earlier, later, rfl, rfl, rfl, rfl⟩ := exists_of_under_eq split
  have valid : validate (.integer limit) (.value (.str d.content)) = .valid := by
    rw [revision.content_eq, created.content_eq]
    exact created.valid
  -- The document is valid under the limit of every request, so each validation again is one entry.
  rw [reruns_under valid, ← map_fst_trail] at listed
  obtain ⟨number, numbers, count, trailed⟩ := eq_of_map_fst listed
  rw [List.length_map, ← List.countP_eq_length_filter] at count
  refine ⟨earlier, request, later, new, number, numbers, rfl, created.called,
    created.answer_eq revision, count, trailed, ?_⟩
  intro question called
  rw [handle_of_call called, answer_audit _ _ stored, trailed, List.map_cons, List.zip_map_left,
    List.map_map]
  rfl

/-- A document is created, validated again, and its audit log asked for. -/
theorem audit_log_of_validated_document :
    let creation : Request := {
      method := "POST", target := { path := "/rule-sets", query := [] }
      body := some (.json (.obj [("name", .str "a"), ("content", .str "[]")]))
      clock := { stored := { year := 2024 }, recorded := { year := 2024, second := 1 } } }
    let validation : Request := {
      method := "GET", target := { path := "/rule-sets/1/validation", query := [] }, body := none
      clock := { recorded := { year := 2025 } } }
    let question : Request := {
      method := "GET", target := { path := "/rule-sets/1/audit", query := [] }, body := none }
    let d : StoredDocument := {
      id := 1, name := "a", version := 1, active := true, content := "[]", notes := none
      created := { year := 2024 } }
    d ∈ (registryAfter {} (under (.integer 64) [creation, validation])).documents ∧
      (registryAfter {} (under (.integer 64) [creation, validation])).audit = [
        { id := 1, document := some (.integer 1), event := "RULE_SET_STORED"
          payload := .obj [("name", .str "a"), ("version", .int 1)]
          time := { year := 2024, second := 1 } },
        { id := 2, document := some (.integer 1), event := "VALIDATION_RUN"
          payload := .obj [("valid", .bool true), ("error_count", .int 0), ("critical", .null)]
          time := { year := 2025 } }] ∧
      ∃ shown, (handle (.integer 64) (registryAfter {} (under (.integer 64) [creation, validation]))
        question).1 = { status := 200, body := .json (.arr shown) } := by
  intro creation validation question d
  have stored : d ∈ (registryAfter {} (under (.integer 64) [creation, validation])).documents := by
    decide +kernel
  have called : call question = .ok (.audit d.id) := rfl
  have log := audit_log_is_ledger 64 [creation, validation]
  obtain ⟨before, request, since, new, first, numbers, -, -, -, -, -, answered⟩ := log.2 d stored
  exact ⟨stored, log.1.trans (by decide +kernel), _, answered question called⟩

end Rulebook.Service
