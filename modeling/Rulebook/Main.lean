import Rulebook.CommandLine.Streams

/-!
# The program

Runs the command line on the system: reads the files that it names, the environment file `.env` of
the installation that the program belongs to, wherever it is called from, and the variables that
both may ask for, and writes what the run leaves on its streams. All that is decided is decided by
`Streams.run`.
-/

set_option autoImplicit false

namespace Rulebook.CommandLine

/-- The fault that an error of the system means. -/
def faultOfSystem : IO.Error → AccessFault
  | .noFileOrDirectory _ _ _ => .missing
  | .inappropriateType _ code _ => if code = 21 then .isDirectory else .notDirectory
  | .invalidArgument _ _ _ => .nameTooLong
  | .permissionDenied _ _ _ => .system 13 "Permission denied"
  | _ => .system 5 "Input/output error"

/-- What reading a path of the system gives. -/
def readSystem (path : FilePath) : IO Access := do
  try
    let bytes ← IO.FS.readBinFile path.text.toString
    return .ok bytes.toList
  catch e => return .error (faultOfSystem e)

/-- The paths that a command line names. -/
def namedPaths (arguments : List Text) : List FilePath :=
  match parse arguments with
  | .ok (.run i) => i.paths.map FilePath.ofText
  | _ => []

/-- The environment file of an installation, which lies two levels above the directory of its
program. -/
def envFilePath (programFile : FilePath) : FilePath :=
  let file : Text := ".env"
  { programFile with names := programFile.names.take (programFile.names.length - 3) ++ [file] }

/-- The environment file of an installation, if it is there as a text. -/
def readEnvFile (programFile : FilePath) : IO (Option Text) := do
  match (← readSystem (envFilePath programFile)).text with
  | .ok source => return some source
  | .error _ => return none

/-- The variables of the system that are among the given names. -/
def readVariables (names : List Text) : IO Environment := do
  let mut env : Environment := []
  for name in names do
    if let some value ← IO.getEnv name.toString then
      env := env.bindNew name value
  return env

/-- The streams of the system, which are written in UTF-8. -/
def systemStreams : Streams := { output := .utf8, errors := .utf8 }

/-- Runs the command line of a program on the system and gives the exit code. -/
def runSystem (programFile : FilePath) (arguments : List Text) : IO UInt32 := do
  let envFile ← readEnvFile programFile
  let env ← readVariables (Settings.variableNames ++ ((envFile.map EnvFile.names).getD []))
  let accesses ← (namedPaths arguments).mapM fun path => return (path, ← readSystem path)
  let read (path : FilePath) : Access := (accesses.lookup path).getD (.error .missing)
  let transcript := systemStreams.run arguments env envFile read
  IO.print transcript.output.toString
  IO.eprint transcript.errors.toString
  return transcript.ending.exitCode.toUInt32

end Rulebook.CommandLine

/-- Runs the command line. -/
def main (arguments : List String) : IO UInt32 := do
  let programFile := Rulebook.FilePath.ofText (Rulebook.Text.ofString (← IO.appPath).toString)
  Rulebook.CommandLine.runSystem programFile (arguments.map Rulebook.Text.ofString)
