import Rulebook.CommandLine.FileTree
import Rulebook.CommandLine.Options
import Rulebook.CommandLine.Usage
import Rulebook.Document
import Rulebook.Settings.EnvFile

/-!
# The command line program

The program validates the file at each path and reports in the order of the paths. A file that
cannot be read is reported as an error. The exit code is the worst over all paths: 0 for a valid
document, 1 for one with defects, 2 for one that cannot be read as a file or as a document. The
report is written as text, path by path, or at the end as one JSON object, in which a path that is
given twice keeps its first place.
-/

set_option autoImplicit false

namespace Rulebook.CommandLine

/-- What a run of the program leaves behind. -/
structure Outcome where
  exitCode : Nat
  output : Text
  errors : Text
deriving DecidableEq

/-- What there is to say on one path. -/
inductive Finding where
  | unreadable (message : Text)
  | verdict (v : Verdict)
deriving DecidableEq

namespace Finding

/-- How bad a finding is. -/
def exitCode : Finding → Nat
  | .unreadable _ => 2
  | .verdict (.critical _) => 2
  | .verdict (.invalid _) => 1
  | .verdict .valid => 0

/-- A finding as the JSON report shows it. -/
def toJson : Finding → Json
  | .unreadable message => .obj [("error", .str message)]
  | .verdict v => v.toJson

/-- A finding as the text report shows it. -/
def lines (path : FilePath) : Finding → List Text
  | .unreadable _ => []
  | .verdict .valid => ["OK: " ++ path.text]
  | .verdict (.critical cause) =>
    ["Invalid rule set document " ++ path.text ++ ": " ++ cause.message]
  | .verdict (.invalid errors) =>
    ("Invalid rule set document " ++ path.text ++ ":") :: errors.map fun e => "- " ++ e

/-- What a finding puts among the errors. -/
def errorLines : Finding → List Text
  | .unreadable message => [message]
  | .verdict _ => []

end Finding

/-- Lines of text, each with its line feed. -/
def unlines (lines : List Text) : Text := lines.flatMap fun line => line ++ "\n"

/-- The JSON report on paths. -/
def jsonReport (findings : List (FilePath × Finding)) : Json :=
  .obj (Members.ofPairs (findings.map fun (path, f) => (path.text, f.toJson)))

/-- The report on paths. -/
def report (asJson : Bool) (findings : List (FilePath × Finding)) : Outcome :=
  { exitCode := (findings.map fun (_, f) => f.exitCode).foldl max 0
    output :=
      if asJson then unlines [(jsonReport findings).indented 0]
      else unlines (findings.flatMap fun (path, f) => f.lines path)
    errors := unlines (findings.flatMap fun (_, f) => f.errorLines) }

/-- The number of columns that a terminal leaves for what the program says about itself. -/
def columns (env : Environment) : Int := Settings.terminalWidth env - 2

/-- The outcome of a command line that is wrong. -/
def usageOutcome (env : Environment) (e : UsageError) : Outcome :=
  { exitCode := 2
    output := []
    errors := usage (columns env) ++ program ++ ": error: " ++ e.message ++ "\n" }

/-- The outcome of a call for help. -/
def helpOutcome (env : Environment) : Outcome :=
  { exitCode := 0, output := helpText (columns env), errors := [] }

/-- The depth that a run validates with: the one it is called with, or else the one that is set. -/
def Invocation.depth (i : Invocation) (env : Environment) : DepthChoice :=
  i.maxDepth.getD (.bound (Settings.ruleDepth env))

/-- Why a run ends without an outcome. -/
inductive Abort where
  /-- The environment file binds a name or a value that no environment takes. -/
  | unbindable
  /-- A path holds a surrogate that stands for no byte. -/
  | unencodablePath
  /-- A path has a NUL. -/
  | unusablePath
  /-- The depth of a rule is to be compared with none. -/
  | incomparableDepth
deriving DecidableEq, Repr

/-- What there is to say on a path, given what reading it gives. -/
def examine (depth : DepthChoice) (path : FilePath) : Except ReadFault Text → Except Abort Finding
  | .ok source =>
    match judge? depth (.value (.str source)) with
    | some v => .ok (.verdict v)
    | none => .error .incomparableDepth
  | .error fault => .ok (.unreadable (fault.message path))

/-- Why a path cannot be handed to the system at all, if it cannot. -/
def pathFault? (p : Text) : Option Abort :=
  if !p.fitsSystem then some .unencodablePath
  else if p.contains (CodePoint.ofNat 0) then some .unusablePath
  else none

/-- Examines the file at a path as it is written. -/
def examinePath (depth : DepthChoice) (read : FilePath → Access) (p : Text) :
    Except Abort (FilePath × Finding) :=
  let path := FilePath.ofText p
  match pathFault? p with
  | some cause => .error cause
  | none => (examine depth path (read path).text).map fun finding => (path, finding)

/-- The outcome of a run, given what reading its paths gives. -/
def Invocation.outcome (i : Invocation) (env : Environment) (read : FilePath → Access) :
    Except Abort Outcome :=
  (i.paths.mapM (examinePath (i.depth env) read)).map (report i.json)

/-- The outcome of a command line in an environment, with an environment file that may be absent. -/
def run (arguments : List Text) (env : Environment) (envFile : Option Text)
    (read : FilePath → Access) : Except Abort Outcome :=
  match parse arguments with
  | .error e => .ok (usageOutcome env e)
  | .ok .help => .ok (helpOutcome env)
  | .ok (.run i) =>
    match EnvFile.loadIfPresent? env envFile with
    | none => .error .unbindable
    | some (env, _) => i.outcome env read

end Rulebook.CommandLine
