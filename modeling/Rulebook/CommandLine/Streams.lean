import Rulebook.CommandLine.Report

/-!
# Streams

A run writes to two streams, and a stream has bytes for some code points, those of ASCII among them. What the
run puts out is written as it stands. The first text that the output has no bytes for ends the run: what has
been written before stays, and no later path is examined. Among the errors an escape takes the place of a
code point without bytes, so that nothing ends a run there.

A run reports on a path before it examines the next one, and writes the JSON report behind the last one. Where
everything can be written, a run leaves its outcome as `run` gives it.
-/

set_option autoImplicit false

namespace Rulebook.CommandLine

/-- The code points that a stream has bytes for. -/
structure Charset where
  has : CodePoint → Bool
  has_ascii : ∀ c : CodePoint, c.val < 0x80 → has c = true

namespace Charset

/-- The code points that UTF-8 has bytes for. -/
def utf8 : Charset where
  has c := !c.isSurrogate
  has_ascii c ascii := by
    have low : ¬ 0xD800 ≤ c.val := by omega
    simp only [CodePoint.isSurrogate, low, decide_false, Bool.false_and, Bool.not_false]

/-- Whether a text can be written as it stands. -/
def canWrite (s : Charset) (t : Text) : Bool := t.all s.has

/-- A text with an escape for each code point that cannot be written. -/
def escaped (s : Charset) (t : Text) : Text :=
  t.flatMap fun c => if s.has c then [c] else Text.numberEscape c

end Charset

/-- The streams that a run writes to. -/
structure Streams where
  output : Charset
  errors : Charset

/-- What a run does at one time. -/
inductive Event where
  | output (t : Text)
  | errors (t : Text)
  /-- The run cannot go on. -/
  | abort (cause : Abort)

/-- How a run ends. -/
inductive Ending where
  | exit (code : Nat)
  | aborted (cause : Abort)
  /-- A text to be put out cannot be written. -/
  | unwritable (t : Text)
deriving DecidableEq

/-- The exit code of the program, which is 1 if the run breaks off. -/
def Ending.exitCode : Ending → Nat
  | .exit code => code
  | .aborted _ => 1
  | .unwritable _ => 1

/-- What a run leaves on its streams, and how it ends. -/
structure Transcript where
  output : Text
  errors : Text
  ending : Ending
deriving DecidableEq

/-- What a run does about a finding as soon as it is made. The JSON report has to wait for the others. -/
def Finding.events (asJson : Bool) (path : FilePath) (f : Finding) : List Event :=
  (f.errorLines.map fun line => .errors (line ++ "\n")) ++
    if asJson then [] else (f.lines path).map fun line => .output (line ++ "\n")

/-- What a run does about a path that has been examined. -/
def examinedEvents (asJson : Bool) : Except Abort (FilePath × Finding) → List Event
  | .error cause => [.abort cause]
  | .ok (path, f) => f.events asJson path

namespace Streams

/-- What events leave on streams, up to the one that ends the run. Behind the last one the run ends with an
exit code. -/
def perform (s : Streams) (code : Nat) : List Event → Transcript
  | [] => { output := [], errors := [], ending := .exit code }
  | .output t :: rest =>
    if s.output.canWrite t then
      let later := s.perform code rest
      { later with output := t ++ later.output }
    else { output := [], errors := [], ending := .unwritable t }
  | .errors t :: rest =>
    let later := s.perform code rest
    { later with errors := s.errors.escaped t ++ later.errors }
  | .abort cause :: _ => { output := [], errors := [], ending := .aborted cause }

/-- Writes an outcome. -/
def write (s : Streams) (o : Outcome) : Transcript :=
  s.perform o.exitCode [.output o.output, .errors o.errors]

/-- Examines paths and reports on them, one after the other. -/
def validate (s : Streams) (i : Invocation) (env : Environment) (read : FilePath → Access) :
    Transcript :=
  let examined := i.paths.map (examinePath (i.depth env) read)
  let outcome := report i.json (examined.filterMap Except.toOption)
  s.perform outcome.exitCode (examined.flatMap (examinedEvents i.json) ++
    if i.json then [.output outcome.output] else [])

/-- What a command line leaves on streams. -/
def run (s : Streams) (arguments : List Text) (env : Environment) (envFile : Option Text)
    (read : FilePath → Access) : Transcript :=
  match parse arguments with
  | .error e => s.write (usageOutcome env e)
  | .ok .help => s.write (helpOutcome env)
  | .ok (.run i) =>
    match EnvFile.loadIfPresent? env envFile with
    | none => s.perform 1 [.abort .unbindable]
    | some (env, _) => s.validate i env read

end Streams

end Rulebook.CommandLine
