import Rulebook.Proofs.CommandLine.FilePath
import Rulebook.Proofs.CommandLine.Streams
import Rulebook.Proofs.Json.Members

/-!
# The text report and the JSON report

The JSON report has one entry for each path, whatever the number of arguments that lead to it
(`jsonReport_examined`), and the entries tell everything else: the exit code is the greatest of their
severities, and what a run puts out and what it puts among the errors is made of their blocks and their
complaints, argument by argument. So both forms of the report say the same (`reports_agree`).

A path may come in several spellings. The object of the report goes by the text of the path, and paths in
normal form are told apart by their texts, so an entry that is set again is set to the value that it has.

What the system cannot take is another matter. A path that it takes for no name and a variable that no
environment takes end a run early, and so does a line of the text report that the output has no bytes for,
while the JSON report, which is ASCII, can always be written (`unusable_arguments_escape`).
-/

set_option autoImplicit false

namespace Rulebook

/-- The value that an object has under a key. -/
def Json.member? (v : Json) (key : Text) : Option Json :=
  match v with
  | .obj members => Members.get? members key
  | _ => none

namespace CommandLine

/-! ## Entries -/

/-- What the JSON report holds on a path: why it cannot be read, or the verdict on what it holds. -/
def entry (bound : DepthBound) (read : FilePath → Access) (path : FilePath) : Json :=
  match (read path).text with
  | .ok source => (validate bound (.value (.str source))).toJson
  | .error fault => .obj [("error", .str (fault.message path))]

/-- How bad it is what an entry says: 2 for what cannot be read as a file or as a document, 0 for a valid
document, and 1 for one with defects. -/
def severity (entry : Json) : Nat :=
  if (entry.member? "error").isSome || (entry.member? "critical").isSome then 2
  else if entry.member? "valid" = some (.bool true) then 0
  else 1

/-- What an entry gives to the errors. -/
def complaint (entry : Json) : Text :=
  match entry.member? "error" with
  | some (.str message) => message ++ "\n"
  | _ => []

/-- The line of the text report on one error of a document. -/
def errorLine : Json → Text
  | .str message => "- " ++ message ++ "\n"
  | _ => []

/-- What the text report shows of an entry on a path. -/
def block (path : Text) (entry : Json) : Text :=
  match entry.member? "error", entry.member? "critical", entry.member? "errors" with
  | some _, _, _ => []
  | none, some (.str message), _ =>
    "Invalid rule set document " ++ path ++ ": " ++ message ++ "\n"
  | none, _, some (.arr errors) =>
    "Invalid rule set document " ++ path ++ ":\n" ++ errors.flatMap errorLine
  | none, _, _ => "OK: " ++ path ++ "\n"

/-- The object of a finding shows its exit code. -/
theorem severity_toJson (f : Finding) : severity f.toJson = f.exitCode := by
  cases f with
  | unreadable message => rfl
  | verdict v => cases v <;> rfl

/-- The object of a finding shows what the finding puts among the errors. -/
theorem complaint_toJson (f : Finding) : complaint f.toJson = unlines f.errorLines := by
  cases f with
  | unreadable message => exact (List.append_nil _).symm
  | verdict v => cases v <;> rfl

/-- The object of a finding shows the lines of the finding. -/
theorem block_toJson (path : FilePath) (f : Finding) :
    block path.text f.toJson = unlines (f.lines path) := by
  cases f with
  | unreadable message => rfl
  | verdict v =>
    cases v with
    | valid => exact (List.append_nil _).symm
    | critical cause => exact (List.append_nil _).symm
    | invalid errors =>
      have lines : (errors.map Json.str).flatMap errorLine =
          unlines (errors.map fun e => "- " ++ e) := by
        rw [unlines, List.flatMap_map, List.flatMap_map]
        rfl
      have colon : (":\n" : Text) = ":" ++ "\n" := rfl
      change "Invalid rule set document " ++ path.text ++ ":\n" ++
        (errors.map Json.str).flatMap errorLine = _
      rw [lines, colon, ← List.append_assoc]
      rfl

/-! ## One run -/

/-- What there is to say on a path. -/
def finding (bound : DepthBound) (read : FilePath → Access) (path : FilePath) : Finding :=
  match (read path).text with
  | .ok source => .verdict (validate bound (.value (.str source)))
  | .error fault => .unreadable (fault.message path)

variable {bound : DepthBound} {read : FilePath → Access} {paths : List Text}

/-- What is found at a path goes into the report as the entry of the path. -/
theorem toJson_finding (path : FilePath) :
    (finding bound read path).toJson = entry bound read path := by
  unfold finding entry
  split <;> rfl

/-- What there is to say on the path of an argument. -/
def examined (bound : DepthBound) (read : FilePath → Access) (p : Text) : FilePath × Finding :=
  (FilePath.ofText p, finding bound read (FilePath.ofText p))

/-- An argument that the system takes for a name is examined. -/
theorem examinePath_eq {p : Text} (usable : pathFault? p = none) :
    examinePath (.bound bound) read p = .ok (examined bound read p) := by
  unfold examinePath examined finding
  rw [usable]
  dsimp only
  cases (read (FilePath.ofText p)).text <;> rfl

/-- The exit code is the greatest severity of an entry, with or without JSON. -/
theorem exitCode_report (asJson : Bool) :
    (report asJson (paths.map (examined bound read))).exitCode =
      paths.toFinset.sup fun p => severity (entry bound read (FilePath.ofText p)) := by
  have codes : ((paths.map (examined bound read)).map fun e => e.2.exitCode) =
      paths.map fun p => severity (entry bound read (FilePath.ofText p)) := by
    rw [List.map_map]
    refine List.map_congr_left fun p _ => ?_
    rw [← toJson_finding, severity_toJson]
    rfl
  change ((paths.map (examined bound read)).map fun e => e.2.exitCode).foldl max 0 = _
  rw [codes, foldl_max_map, Nat.zero_max]

/-- Among the errors are the complaints of the entries, argument by argument. -/
theorem errors_report (asJson : Bool) :
    (report asJson (paths.map (examined bound read))).errors =
      paths.flatMap fun p => complaint (entry bound read (FilePath.ofText p)) := by
  change unlines ((paths.map (examined bound read)).flatMap fun e => e.2.errorLines) = _
  rw [unlines, List.flatMap_map, List.flatMap_assoc]
  refine List.flatMap_congr fun p _ => ?_
  rw [← toJson_finding, complaint_toJson]
  rfl

/-- The text report is the blocks of the entries, argument by argument. -/
theorem output_report :
    (report false (paths.map (examined bound read))).output =
      paths.flatMap fun p =>
        block (FilePath.ofText p).text (entry bound read (FilePath.ofText p)) := by
  change unlines ((paths.map (examined bound read)).flatMap fun e => e.2.lines e.1) = _
  rw [unlines, List.flatMap_map, List.flatMap_assoc]
  refine List.flatMap_congr fun p _ => ?_
  rw [← toJson_finding, block_toJson]
  rfl

/-! ## The entries of a report -/

/-- The entries on paths, each path where it comes first. -/
def entries (bound : DepthBound) (read : FilePath → Access) (paths : List FilePath) : Members :=
  paths.eraseDups.map fun path => (path.text, entry bound read path)

/-- Paths in normal form have entries under distinct keys, however often they come. -/
theorem nodup_keys_entries {paths : List FilePath} (normal : ∀ path ∈ paths, path.IsNormal) :
    (entries bound read paths).keys.Nodup := by
  have keys : (entries bound read paths).keys = paths.eraseDups.map FilePath.text := by
    rw [Members.keys, entries, List.map_map]
    rfl
  rw [keys]
  apply List.Nodup.map_on _ (nodup_eraseDups paths)
  intro x hx y hy same
  exact FilePath.text_injective (normal x (List.mem_eraseDups.mp hx))
    (normal y (List.mem_eraseDups.mp hy)) same

/-- Entries that are set path by path are those of the paths. -/
theorem ofPairs_entries {paths : List FilePath} (normal : ∀ path ∈ paths, path.IsNormal) :
    Members.ofPairs (paths.map fun path => (path.text, entry bound read path)) =
      entries bound read paths := by
  -- From the end, since a pair counts against those that have come before it.
  induction paths using List.reverseRecOn with
  | nil => rfl
  | append_singleton front path ih =>
    have before : ∀ q ∈ front, q.IsNormal := by
      intro q mem
      exact normal q (List.mem_append_left _ mem)
    have step : Members.ofPairs ((front ++ [path]).map fun q => (q.text, entry bound read q)) =
        Members.put path.text (entry bound read path) (entries bound read front) := by
      rw [← ih before, List.map_append, Members.ofPairs, List.foldl_append]
      rfl
    rw [step]
    by_cases repeated : path ∈ front
    · have member : (path.text, entry bound read path) ∈ entries bound read front :=
        List.mem_map.mpr ⟨path, List.mem_eraseDups.mpr repeated, rfl⟩
      rw [Members.put_eq_self (Members.get?_of_mem (nodup_keys_entries before) member), entries,
        entries, eraseDups_concat, if_pos repeated]
    · have new : path.text ∉ (entries bound read front).keys := by
        intro key
        obtain ⟨member, listed, same⟩ := List.mem_map.mp key
        obtain ⟨q, mem, rfl⟩ := List.mem_map.mp listed
        have earlier : q ∈ front := List.mem_eraseDups.mp mem
        have normal_path := normal path (List.mem_append_right _ List.mem_cons_self)
        rw [FilePath.text_injective (before q earlier) normal_path same] at earlier
        exact repeated earlier
      rw [Members.put_eq_append new, entries, entries, eraseDups_concat, if_neg repeated,
        List.map_append]
      rfl

/-- A path that was read from an argument is in normal form. -/
theorem isNormal_of_mem {path : FilePath} (h : path ∈ paths.map FilePath.ofText) :
    path.IsNormal := by
  obtain ⟨p, -, rfl⟩ := List.mem_map.mp h
  exact FilePath.isNormal_ofText p

/-- The object of the report has one entry for each path, where it came first. -/
theorem jsonReport_examined :
    jsonReport (paths.map (examined bound read)) =
      .obj (entries bound read (paths.map FilePath.ofText)) := by
  rw [← ofPairs_entries fun path => isNormal_of_mem, jsonReport, List.map_map, List.map_map]
  congr 2
  refine List.map_congr_left fun p _ => ?_
  simp only [Function.comp_apply, ← toJson_finding]
  rfl

/-- The JSON report is its object, indented, and the end of a line. -/
theorem output_report_json :
    (report true (paths.map (examined bound read))).output =
      (Json.obj (entries bound read (paths.map FilePath.ofText))).indented 0 ++ "\n" := by
  change unlines [(jsonReport _).indented 0] = _
  rw [jsonReport_examined]
  exact List.append_nil _

/-- The JSON report can be written on every stream, since it is ASCII. -/
theorem canWrite_report_json (s : Charset) :
    s.canWrite (report true (paths.map (examined bound read))).output = true := by
  rw [output_report_json]
  exact Charset.canWrite_of_isAscii ((Json.isAscii_indented 0 _).append (by decide))

/-- The worst entry is the worst of what the arguments lead to. -/
theorem sup_severity_entries :
    (entries bound read (paths.map FilePath.ofText)).toFinset.sup (fun e => severity e.2) =
      paths.toFinset.sup fun p => severity (entry bound read (FilePath.ofText p)) := by
  apply le_antisymm
  · apply Finset.sup_le
    intro e mem
    obtain ⟨path, listed, rfl⟩ := List.mem_map.mp (List.mem_toFinset.mp mem)
    obtain ⟨p, argument, rfl⟩ := List.mem_map.mp (List.mem_eraseDups.mp listed)
    exact Finset.le_sup (f := fun p => severity (entry bound read (FilePath.ofText p)))
      (List.mem_toFinset.mpr argument)
  · apply Finset.sup_le
    intro p mem
    have listed : FilePath.ofText p ∈ (paths.map FilePath.ofText).eraseDups :=
      List.mem_eraseDups.mpr (List.mem_map_of_mem (List.mem_toFinset.mp mem))
    have member := List.mem_toFinset.mpr (List.mem_map_of_mem
      (f := fun path => (FilePath.text path, entry bound read path)) listed)
    exact Finset.le_sup (f := fun e : Text × Json => severity e.2) member

/-! ## Runs -/

/-- A call to validate the files at paths, with a depth for rules if one is given. -/
def validation (paths : List Text) (json : Bool) (depth : Option Int) : Request :=
  .run { paths, json, maxDepth := depth.map fun n => .bound (.integer n) }

variable {env loaded : Environment} {envFile : Option Text} {bindsAny : Bool} {depth : Option Int}

/-- A run on paths that the system takes has an outcome: the report on what there is to say on
them. -/
theorem run_eq_report {arguments : List Text} {json : Bool}
    (parsed : parse arguments = .ok (validation paths json depth))
    (loads : EnvFile.loadIfPresent? env envFile = some (loaded, bindsAny))
    (usable : ∀ p ∈ paths, pathFault? p = none) :
    run arguments env envFile read = .ok (report json
      (paths.map (examined (.integer (depth.getD (Settings.ruleDepth loaded))) read))) := by
  have limit : Invocation.depth
      { paths, json, maxDepth := depth.map fun n => .bound (.integer n) } loaded =
        .bound (.integer (depth.getD (Settings.ruleDepth loaded))) := by
    cases depth <;> rfl
  unfold run
  rw [parsed]
  dsimp only [validation]
  rw [loads]
  dsimp only [Invocation.outcome]
  rw [limit, mapM_eq_ok fun p mem => examinePath_eq (usable p mem)]
  rfl

/-- Two command lines on the same paths, one of which asks for JSON, say the same. The JSON report has one
entry for each path where the path comes first, and the entries tell the exit code. The text report is made of
the blocks of the arguments, and if its output can be written, it comes with the same exit code and the same
errors; if not, the run ends at a text that cannot be written. The exit code is the worst over the arguments,
so no command line on these paths that comes to its end, in whatever order and however often they are named,
has another one. -/
theorem reports_agree (s : Streams) (read : FilePath → Access)
    (loads : EnvFile.loadIfPresent? env envFile = some (loaded, bindsAny))
    (usable : ∀ p ∈ paths, pathFault? p = none) {plain asJson : List Text}
    (plainly : parse plain = .ok (validation paths false depth))
    (inJson : parse asJson = .ok (validation paths true depth)) :
    let bound : DepthBound := .integer (depth.getD (Settings.ruleDepth loaded))
    let said (p : Text) : Json := entry bound read (FilePath.ofText p)
    let code : Nat := paths.toFinset.sup fun p => severity (said p)
    let errors : Text := s.errors.escaped (paths.flatMap fun p => complaint (said p))
    let blocks : Text := paths.flatMap fun p => block (FilePath.ofText p).text (said p)
    let shown : Members := (paths.map FilePath.ofText).eraseDups.map fun path =>
      (path.text, entry bound read path)
    s.run asJson env envFile read =
        { output := (Json.obj shown).indented 0 ++ "\n", errors, ending := .exit code } ∧
      shown.keys.Nodup ∧ code = shown.toFinset.sup (fun e => severity e.2) ∧
      (s.output.canWrite blocks = true →
        s.run plain env envFile read = { output := blocks, errors, ending := .exit code }) ∧
      (s.output.canWrite blocks = false →
        ∃ t, (s.run plain env envFile read).ending = .unwritable t) ∧
      ∀ other others json, parse other = .ok (validation others json depth) →
        others.toFinset = paths.toFinset → (json = true ∨ s.output.canWrite blocks = true) →
          (s.run other env envFile read).ending = .exit code := by
  intro bound said code errors blocks shown
  have written : run asJson env envFile read = .ok _ := run_eq_report inJson loads usable
  have told : run plain env envFile read = .ok _ := run_eq_report plainly loads usable
  have text : (report false (paths.map (examined bound read))).output = blocks := output_report
  refine ⟨?_, nodup_keys_entries fun path => isNormal_of_mem, sup_severity_entries.symm, ?_, ?_, ?_⟩
  · rw [Streams.run_eq_of_outcome written (canWrite_report_json s.output), output_report_json,
      errors_report, exitCode_report]
    rfl
  · intro can
    rw [← text] at can
    rw [Streams.run_eq_of_outcome told can, text, errors_report, exitCode_report]
  · intro cannot
    rw [← text] at cannot
    exact Streams.exists_unwritable_of_outcome told (Bool.not_eq_true _ ▸ cannot)
  · intro other others json parsed same can
    have member {p : Text} : p ∈ others ↔ p ∈ paths := by
      rw [← List.mem_toFinset, same, List.mem_toFinset]
    have outcome : run other env envFile read = .ok _ :=
      run_eq_report parsed loads fun p mem => usable p (member.mp mem)
    -- A report can be written if the block of every argument can, so neither order nor repetition counts.
    have writable : s.output.canWrite (report json (others.map (examined bound read))).output = true := by
      cases json with
      | true => exact canWrite_report_json s.output
      | false =>
        rw [output_report, Charset.canWrite_flatMap]
        intro p mem
        exact Charset.canWrite_flatMap.mp (can.resolve_left Bool.false_ne_true) p (member.mp mem)
    rw [Streams.run_eq_of_outcome outcome writable, exitCode_report, same]

/-- One file in two spellings, and one that is missing. -/
theorem reports_agree_on_repeated_path :
    let s : Streams := { output := .utf8, errors := .utf8 }
    let read (path : FilePath) : Access :=
      if path = { root := [], names := ["a"] } then .ok [0x5B, 0x5D] else .error .missing
    let shown : Members := [
      ("a", .obj [("valid", .bool true)]), ("b", .obj [("error", .str "File not found: b")])]
    s.run ["--json", "a", "./a", "b"] [] none read =
        { output := (Json.obj shown).indented 0 ++ "\n"
          errors := "File not found: b\n"
          ending := .exit 2 } ∧
      s.run ["a", "./a", "b"] [] none read =
        { output := "OK: a\nOK: a\n", errors := "File not found: b\n", ending := .exit 2 } := by
  intro s read shown
  have loads : EnvFile.loadIfPresent? [] none = some ([], false) := rfl
  have usable : ∀ p ∈ (["a", "./a", "b"] : List Text), pathFault? p = none := by decide +kernel
  have plainly : parse ["a", "./a", "b"] = .ok (validation ["a", "./a", "b"] false none) := by
    decide +kernel
  have inJson : parse ["--json", "a", "./a", "b"] = .ok (validation ["a", "./a", "b"] true none) := by
    decide +kernel
  obtain ⟨written, -, -, told, -, -⟩ := reports_agree s read loads usable plainly inJson
  refine ⟨written.trans ?_, (told ?_).trans ?_⟩
  all_goals decide +kernel

/-- A path with a NUL is no missing file: the run has no exit code of its own. Nor has one whose
environment file binds a variable to a value with a NUL. A document with a surrogate in an error ends a
run that reports in text before it comes to the missing file, and not one that reports in JSON. -/
theorem unusable_arguments_escape :
    let s : Streams := { output := .utf8, errors := .utf8 }
    let missing (_ : FilePath) : Access := .error .missing
    let path : Text := "a\x00b"
    let read (path : FilePath) : Access :=
      if path = { root := [], names := ["a"] } then .ok (Utf8.encode "[\x7b\"id\": \"\\ud800\"\x7d]")
      else .error .missing
    (parse [path] = .ok (validation [path] false none) ∧
      (s.run [path] [] none missing).ending = .aborted .unusablePath) ∧
    (parse ["a"] = .ok (validation ["a"] false none) ∧
      (s.run ["a"] [] (some "A=\x00") missing).ending = .aborted .unbindable) ∧
    parse ["a", "b"] = .ok (validation ["a", "b"] false none) ∧
      parse ["--json", "a", "b"] = .ok (validation ["a", "b"] true none) ∧
      (s.run ["a", "b"] [] none read).ending.exitCode = 1 ∧ (s.run ["a", "b"] [] none read).errors = [] ∧
      (s.run ["--json", "a", "b"] [] none read).ending.exitCode = 2 ∧
      (s.run ["--json", "a", "b"] [] none read).errors = "File not found: b\n" := by
  decide +kernel

end CommandLine

end Rulebook
