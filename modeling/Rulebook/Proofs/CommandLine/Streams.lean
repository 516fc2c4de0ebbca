import Rulebook.CommandLine.Streams
import Rulebook.Proofs.Json.Ascii
import Rulebook.Proofs.Lists

/-!
# What a run leaves on its streams

A run ends with an exit code exactly if it has an outcome and what it puts out can be written
(`ending_run_eq_exit_iff`), and then it leaves this outcome, with escapes among the errors
(`run_eq_of_outcome`). Both come from what a list of events leaves: an event is passed or ends the run.
-/

set_option autoImplicit false

namespace Rulebook.CommandLine

namespace Charset

variable {s : Charset}

/-- Texts can be written one behind the other if each of them can. -/
theorem canWrite_flatMap {α : Type} {f : α → Text} {items : List α} :
    s.canWrite (items.flatMap f) = true ↔ ∀ a ∈ items, s.canWrite (f a) = true := by
  unfold canWrite
  rw [List.all_flatMap, List.all_eq_true]

/-- Text of ASCII can be written on every stream. -/
theorem canWrite_of_isAscii {t : Text} (h : t.IsAscii) : s.canWrite t = true :=
  List.all_eq_true.mpr fun c mem => s.has_ascii c (h c mem)

/-- What is escaped of two texts is what is escaped of the one and of the other. -/
theorem escaped_append (t u : Text) : s.escaped (t ++ u) = s.escaped t ++ s.escaped u :=
  List.flatMap_append

end Charset

namespace Event

/-- What an event puts out. -/
def outputText : Event → Text
  | .output t => t
  | _ => []

/-- What an event puts among the errors. -/
def errorText : Event → Text
  | .errors t => t
  | _ => []

/-- Whether a run cannot go on at an event, whatever its streams are. -/
def Aborts : Event → Prop
  | .abort _ => True
  | _ => False

/-- Whether a run goes on behind an event. -/
def Passes (s : Streams) (e : Event) : Prop := ¬ e.Aborts ∧ s.output.canWrite e.outputText = true

/-- Events none of which aborts are passed if what they put out can be written. -/
theorem forall_passes_iff {s : Streams} {events : List Event} (h : ∀ e ∈ events, ¬ e.Aborts) :
    (∀ e ∈ events, e.Passes s) ↔ s.output.canWrite (events.flatMap outputText) = true := by
  rw [Charset.canWrite_flatMap]
  exact forall₂_congr fun e mem => and_iff_right (h e mem)

end Event

namespace Streams

variable {s : Streams} {code : Nat}

/-- Events that are all passed leave what they put out and what they put among the errors. -/
theorem perform_of_passes {events : List Event} (h : ∀ e ∈ events, e.Passes s) :
    s.perform code events =
      { output := events.flatMap Event.outputText
        errors := s.errors.escaped (events.flatMap Event.errorText)
        ending := .exit code } := by
  induction events with
  | nil => rfl
  | cons e rest ih =>
    have later := ih fun e mem => h e (List.mem_cons_of_mem _ mem)
    have passes := h e List.mem_cons_self
    cases e with
    | output t =>
      have can : s.output.canWrite t = true := passes.2
      rw [perform, if_pos can, later]
      rfl
    | errors t =>
      have both : (Event.errors t :: rest).flatMap Event.errorText =
          t ++ rest.flatMap Event.errorText := rfl
      rw [perform, later, both, Charset.escaped_append]
      rfl
    | abort cause => exact absurd trivial passes.1

/-- Only behind events that are all passed is there an exit code. -/
theorem ending_perform_eq_exit_iff {events : List Event} {n : Nat} :
    (s.perform code events).ending = .exit n ↔ (∀ e ∈ events, e.Passes s) ∧ n = code := by
  constructor
  · intro ends
    induction events with
    | nil =>
      cases ends
      exact ⟨fun e mem => absurd mem List.not_mem_nil, rfl⟩
    | cons e rest ih =>
      rw [List.forall_mem_cons]
      cases e with
      | output t =>
        rw [perform] at ends
        split_ifs at ends with can
        exact (ih ends).imp_left (And.intro ⟨id, can⟩)
      | errors t => exact (ih ends).imp_left (And.intro ⟨id, rfl⟩)
      | abort cause => cases ends
  · rintro ⟨passes, rfl⟩
    rw [perform_of_passes passes]

/-- Where nothing aborts, an event that is not passed is a text that cannot be written. -/
theorem exists_unwritable {events : List Event} (h : ∀ e ∈ events, ¬ e.Aborts)
    (stuck : ¬ ∀ e ∈ events, e.Passes s) : ∃ t, (s.perform code events).ending = .unwritable t := by
  induction events with
  | nil => exact absurd (fun e mem => absurd mem List.not_mem_nil) stuck
  | cons e rest ih =>
    rw [List.forall_mem_cons] at h stuck
    cases e with
    | output t =>
      rw [perform]
      split_ifs with can
      · exact ih h.2 fun passes => stuck ⟨⟨id, can⟩, passes⟩
      · exact ⟨t, rfl⟩
    | errors t => exact ih h.2 fun passes => stuck ⟨⟨id, rfl⟩, passes⟩
    | abort cause => exact absurd trivial h.1

/-! ## Events that bring about an outcome -/

/-- Whether events bring about an outcome. -/
structure BringAbout (events : List Event) (o : Outcome) : Prop where
  goes_on : ∀ e ∈ events, ¬ e.Aborts
  output_eq : events.flatMap Event.outputText = o.output
  errors_eq : events.flatMap Event.errorText = o.errors

/-- All events pass exactly if the output has bytes for the whole of what is put out. -/
theorem BringAbout.passes_iff {events : List Event} {o : Outcome} (h : BringAbout events o) :
    (∀ e ∈ events, e.Passes s) ↔ s.output.canWrite o.output = true := by
  rw [Event.forall_passes_iff h.goes_on, h.output_eq]

/-- If the whole can be put out, a run of the events ends with its own code and has put it out. -/
theorem BringAbout.perform_eq {events : List Event} {o : Outcome} (h : BringAbout events o)
    (can : s.output.canWrite o.output = true) :
    s.perform code events =
      { output := o.output, errors := s.errors.escaped o.errors, ending := .exit code } := by
  rw [perform_of_passes (h.passes_iff.mpr can), h.output_eq, h.errors_eq]

/-- An outcome is brought about by putting out the one of its texts and then the other. -/
theorem bringAbout_write (o : Outcome) : BringAbout [.output o.output, .errors o.errors] o where
  goes_on e mem := by
    simp only [List.mem_cons, List.not_mem_nil, or_false] at mem
    rcases mem with rfl | rfl <;> exact id
  output_eq := List.append_nil _
  errors_eq := List.append_nil _

/-- What a finding puts out is its lines in the text report, and nothing in the JSON report. -/
theorem outputText_events (asJson : Bool) (path : FilePath) (f : Finding) :
    (f.events asJson path).flatMap Event.outputText =
      if asJson then [] else unlines (f.lines path) := by
  have no_errors : (f.errorLines.map fun line => Event.errors (line ++ "\n")).flatMap
      Event.outputText = [] := by
    rw [List.flatMap_map]
    exact List.flatMap_eq_nil_iff.mpr fun line _ => rfl
  rw [Finding.events, List.flatMap_append, no_errors, List.nil_append]
  cases asJson with
  | true => rfl
  | false =>
    change ((f.lines path).map _).flatMap _ = _
    rw [List.flatMap_map]
    rfl

/-- A finding puts its error lines among the errors in either report. -/
theorem errorText_events (asJson : Bool) (path : FilePath) (f : Finding) :
    (f.events asJson path).flatMap Event.errorText = unlines f.errorLines := by
  have no_output : (if asJson then [] else (f.lines path).map fun line =>
      Event.output (line ++ "\n")).flatMap Event.errorText = [] := by
    cases asJson with
    | true => rfl
    | false =>
      change ((f.lines path).map _).flatMap _ = _
      rw [List.flatMap_map]
      exact List.flatMap_eq_nil_iff.mpr fun line _ => rfl
  rw [Finding.events, List.flatMap_append, no_output, List.append_nil, List.flatMap_map]
  rfl

/-- No event of a finding ends a run by itself. -/
theorem not_aborts_events {asJson : Bool} {path : FilePath} {f : Finding} :
    ∀ e ∈ f.events asJson path, ¬ e.Aborts := by
  intro e mem
  rcases List.mem_append.mp mem with complaint | told
  · obtain ⟨line, -, rfl⟩ := List.mem_map.mp complaint
    exact id
  · cases asJson with
    | true => cases told
    | false =>
      obtain ⟨line, -, rfl⟩ := List.mem_map.mp told
      exact id

/-- The events of a run that comes to its end. -/
def eventsOn (asJson : Bool) (findings : List (FilePath × Finding)) : List Event :=
  (findings.flatMap fun found => found.2.events asJson found.1) ++
    if asJson then [.output (report asJson findings).output] else []

/-- The events on the findings bring about the report of them. -/
theorem bringAbout_eventsOn (asJson : Bool) (findings : List (FilePath × Finding)) :
    BringAbout (eventsOn asJson findings) (report asJson findings) where
  goes_on e mem := by
    rcases List.mem_append.mp mem with front | closing
    · obtain ⟨found, -, event⟩ := List.mem_flatMap.mp front
      exact not_aborts_events e event
    · cases asJson with
      | true =>
        cases List.mem_singleton.mp closing
        exact id
      | false => cases closing
  output_eq := by
    -- With JSON no finding puts anything out, and without it nothing follows the findings.
    have blocks : (findings.flatMap fun found =>
        (found.2.events asJson found.1).flatMap Event.outputText) =
          findings.flatMap fun found => if asJson then [] else unlines (found.2.lines found.1) :=
      List.flatMap_congr fun found _ => outputText_events asJson found.1 found.2
    rw [eventsOn, List.flatMap_append, List.flatMap_assoc, blocks]
    cases asJson with
    | true =>
      have silent : (findings.flatMap fun _ => ([] : Text)) = [] :=
        List.flatMap_eq_nil_iff.mpr fun _ _ => rfl
      refine (congrArg (· ++ _) silent).trans ?_
      exact List.append_nil _
    | false =>
      refine (List.append_nil _).trans ?_
      change _ = unlines (findings.flatMap fun found => found.2.lines found.1)
      rw [unlines, List.flatMap_assoc]
      rfl
  errors_eq := by
    have closing : (if asJson then [Event.output (report asJson findings).output] else []).flatMap
        Event.errorText = [] := by
      cases asJson <;> rfl
    have complaints : (findings.flatMap fun found =>
        (found.2.events asJson found.1).flatMap Event.errorText) =
          findings.flatMap fun found => unlines found.2.errorLines :=
      List.flatMap_congr fun found _ => errorText_events asJson found.1 found.2
    rw [eventsOn, List.flatMap_append, closing, List.append_nil, List.flatMap_assoc, complaints]
    change _ = unlines (findings.flatMap fun found => found.2.errorLines)
    rw [unlines, List.flatMap_assoc]
    rfl

/-! ## Runs -/

variable {i : Invocation} {env : Environment} {read : FilePath → Access}

/-- Where every path can be examined, a validation does what there is to do about the findings. -/
theorem validate_of_examined {findings : List (FilePath × Finding)}
    (h : i.paths.map (examinePath (i.depth env) read) = findings.map Except.ok) :
    s.validate i env read =
      s.perform (report i.json findings).exitCode (eventsOn i.json findings) := by
  have same : (findings.map (Except.ok (ε := Abort))).filterMap Except.toOption = findings := by
    rw [List.filterMap_map]
    exact List.filterMap_some
  have events : (findings.map Except.ok).flatMap (examinedEvents i.json) =
      findings.flatMap fun found => found.2.events i.json found.1 := by
    rw [List.flatMap_map]
    rfl
  unfold validate
  dsimp only
  rw [h, same, events]
  rfl

/-- A validation without an outcome aborts at some path. -/
theorem exists_aborts_of_outcome {cause : Abort} (h : i.outcome env read = .error cause) :
    ∃ e ∈ (i.paths.map (examinePath (i.depth env) read)).flatMap (examinedEvents i.json), e.Aborts := by
  by_contra goes_on
  push Not at goes_on
  have examined : i.paths.map (examinePath (i.depth env) read) ∈ Set.range (List.map Except.ok) := by
    rw [Set.range_list_map]
    intro result mem
    cases result with
    | ok found => exact ⟨found, rfl⟩
    | error cause =>
      exact absurd trivial (goes_on (.abort cause) (List.mem_flatMap.mpr ⟨_, mem, List.mem_singleton_self _⟩))
  obtain ⟨findings, same⟩ := examined
  rw [Invocation.outcome, mapM_eq_ok_iff.mpr same.symm] at h
  cases h

variable {arguments : List Text} {envFile : Option Text}

/-- A run that has an outcome brings it about. -/
theorem exists_bringAbout {o : Outcome} (h : CommandLine.run arguments env envFile read = .ok o) :
    ∃ events, s.run arguments env envFile read = s.perform o.exitCode events ∧ BringAbout events o := by
  rw [CommandLine.run] at h
  rw [run]
  generalize parse arguments = parsed at h ⊢
  cases parsed with
  | error e =>
    cases h
    exact ⟨_, rfl, bringAbout_write _⟩
  | ok request =>
    cases request with
    | help =>
      cases h
      exact ⟨_, rfl, bringAbout_write _⟩
    | run i =>
      dsimp only at h ⊢
      cases loads : EnvFile.loadIfPresent? env envFile with
      | none =>
        rw [loads] at h
        cases h
      | some loaded =>
        rw [loads] at h
        dsimp only [Invocation.outcome] at h ⊢
        cases examined : i.paths.mapM (examinePath (i.depth loaded.1) read) with
        | error cause =>
          rw [examined] at h
          cases h
        | ok findings =>
          rw [examined] at h
          cases h
          exact ⟨_, validate_of_examined (mapM_eq_ok_iff.mp examined), bringAbout_eventsOn _ _⟩

/-- A run that has no outcome does not come to its end. -/
theorem exists_aborts {cause : Abort} (h : CommandLine.run arguments env envFile read = .error cause) :
    ∃ code events, s.run arguments env envFile read = s.perform code events ∧
      ∃ e ∈ events, Event.Aborts e := by
  rw [CommandLine.run] at h
  rw [run]
  generalize parse arguments = parsed at h ⊢
  cases parsed with
  | error e => cases h
  | ok request =>
    cases request with
    | help => cases h
    | run i =>
      dsimp only at h ⊢
      cases loads : EnvFile.loadIfPresent? env envFile with
      | none => exact ⟨_, _, rfl, _, List.mem_singleton_self _, trivial⟩
      | some loaded =>
        rw [loads] at h
        obtain ⟨e, mem, aborts⟩ := exists_aborts_of_outcome h
        exact ⟨_, _, rfl, e, List.mem_append_left _ mem, aborts⟩

/-- What a run leaves whose outcome can be written. -/
theorem run_eq_of_outcome {o : Outcome} (h : CommandLine.run arguments env envFile read = .ok o)
    (can : s.output.canWrite o.output = true) :
    s.run arguments env envFile read =
      { output := o.output, errors := s.errors.escaped o.errors, ending := .exit o.exitCode } := by
  obtain ⟨events, same, brings⟩ := exists_bringAbout (s := s) h
  rw [same, brings.perform_eq can]

/-- A run whose outcome cannot be written ends at a text that cannot. -/
theorem exists_unwritable_of_outcome {o : Outcome}
    (h : CommandLine.run arguments env envFile read = .ok o) (cannot : ¬ s.output.canWrite o.output = true) :
    ∃ t, (s.run arguments env envFile read).ending = .unwritable t := by
  obtain ⟨events, same, brings⟩ := exists_bringAbout (s := s) h
  rw [same]
  exact exists_unwritable brings.goes_on fun passes => cannot (brings.passes_iff.mp passes)

/-- A run has an exit code exactly if it has an outcome and what it puts out can be written. -/
theorem ending_run_eq_exit_iff {n : Nat} :
    (s.run arguments env envFile read).ending = .exit n ↔
      ∃ o, CommandLine.run arguments env envFile read = .ok o ∧ s.output.canWrite o.output = true ∧
        o.exitCode = n := by
  constructor
  · intro ends
    cases outcome : CommandLine.run arguments env envFile read with
    | error cause =>
      obtain ⟨code, events, same, e, mem, aborts⟩ := exists_aborts (s := s) outcome
      rw [same, ending_perform_eq_exit_iff] at ends
      exact absurd aborts (ends.1 e mem).1
    | ok o =>
      obtain ⟨events, same, brings⟩ := exists_bringAbout (s := s) outcome
      rw [same, ending_perform_eq_exit_iff, brings.passes_iff] at ends
      exact ⟨o, rfl, ends.1, ends.2.symm⟩
  · rintro ⟨o, outcome, can, rfl⟩
    rw [run_eq_of_outcome outcome can]

end Streams

end Rulebook.CommandLine
