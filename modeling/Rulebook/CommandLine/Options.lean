import Rulebook.Document
import Rulebook.Text.Integer
import Rulebook.Text.Quoted

/-!
# Command line options

The command line takes one or more paths and three options. An option may be cut short as long as
one option alone begins so, and may take its value behind an equals sign. Arguments behind `--` are
paths whatever they look like; so is a lone hyphen, a negative number, and an argument with a blank
that no option begins with. All paths must come in one run: those of a later run are not recognised.
What an argument is gets decided for the whole line before any of it is acted on.
-/

set_option autoImplicit false

namespace Rulebook.CommandLine

/-- The options. -/
inductive Flag where
  | help
  | json
  | maxDepth
deriving DecidableEq, Repr

/-- The ways to write the options, in the order in which they are listed. -/
def spellings : List (Text × Flag) := [
  ("-h", .help), ("--help", .help), ("--json", .json), ("--max-depth", .maxDepth)]

/-- An option as error messages name it. -/
def Flag.name : Flag → Text
  | .help => "-h/--help"
  | .json => "--json"
  | .maxDepth => "--max-depth"

/-- What is wrong with a command line. -/
inductive UsageError where
  | ambiguous (argument : Text) (matching : List Text)
  | ignoredValue (flag : Flag) (value : Text)
  | missingValue (flag : Flag)
  | notInteger (flag : Flag) (value : Text)
  | missingPaths
  | unrecognized (arguments : List Text)
deriving DecidableEq

/-- The wording of a usage error. -/
def UsageError.message : UsageError → Text
  | .ambiguous argument matching =>
    "ambiguous option: " ++ argument ++ " could match " ++ Text.join ", " matching
  | .ignoredValue flag value =>
    "argument " ++ flag.name ++ ": ignored explicit argument " ++ value.quoted
  | .missingValue flag => "argument " ++ flag.name ++ ": expected one argument"
  | .notInteger flag value => "argument " ++ flag.name ++ ": invalid int value: " ++ value.quoted
  | .missingPaths => "the following arguments are required: paths"
  | .unrecognized arguments => "unrecognized arguments: " ++ Text.join " " arguments

/-- A value written in the same argument as its option. -/
structure Attached where
  /-- Whether the option is written as one letter. -/
  toLetter : Bool
  /-- The value. -/
  value : Text
deriving DecidableEq

/-- What an argument is. -/
inductive Role where
  /-- A path. -/
  | positional
  /-- The first `--`. -/
  | separator
  /-- An option. -/
  | option (flag : Flag) (attached : Option Attached)
  /-- What looks like an option but is none. -/
  | unknown
deriving DecidableEq

/-- Whether an argument is a negative number: a hyphen and digits of any script, or a hyphen, digits
if any, a point and digits. One line feed may follow. -/
def isNegativeNumber (argument : Text) : Bool :=
  let isDigit (c : CodePoint) : Bool := c.decimalValue?.isSome
  let digits (t : Text) : Bool := !t.isEmpty && t.all isDigit
  let isEnded : Bool := argument.getLast? = some ('\n' : CodePoint)
  let unended := if isEnded then argument.dropLast else argument
  match unended with
  | c :: number =>
    c = '-' &&
      (digits number ||
        match Text.cutAt '.' number with
        | (whole, some fraction) => whole.all isDigit && digits fraction
        | (_, none) => false)
  | [] => false

/-- The value behind the first equals sign of an argument, and what stands before it. -/
def splitValue (argument : Text) : Text × Option Attached :=
  match argument.cutAt '=' with
  | (before, some value) => (before, some { toLetter := before.length = 2, value })
  | (before, none) => (before, none)

/-- The options that an argument may be short for, as they are written out, with the value attached
to it. An argument with one hyphen may have the value directly behind its letter. -/
def candidates (argument : Text) : List (Text × Flag × Option Attached) :=
  if Text.dropPrefix? "--" argument ≠ none then
    let (beginning, attached) := splitValue argument
    spellings.filterMap fun (spelling, flag) =>
      if beginning.isPrefixOf spelling then some (spelling, flag, attached) else none
  else
    let (letter, value) : Text × Text := argument.splitAt 2
    spellings.filterMap fun (spelling, flag) =>
      if spelling = letter then some (spelling, flag, some { toLetter := true, value })
      else if argument.isPrefixOf spelling then some (spelling, flag, none)
      else none

/-- The role of an argument before `--`. -/
def role (argument : Text) : Except UsageError Role :=
  let hyphen : CodePoint := '-'
  if argument.head? ≠ some hyphen then .ok .positional
  else
    match spellings.lookup argument with
    | some flag => .ok (.option flag none)
    | none =>
      if argument.length = 1 then .ok .positional
      else
        let (beginning, attached) := splitValue argument
        match attached, spellings.lookup beginning with
        | some value, some flag => .ok (.option flag (some value))
        | _, _ =>
          match candidates argument with
          | [(_, flag, attached)] => .ok (.option flag attached)
          | [] =>
            if isNegativeNumber argument || argument.contains ' ' then .ok .positional
            else .ok .unknown
          | several => .error (.ambiguous argument (several.map Prod.fst))

/-- The roles of all arguments. -/
def roles : List Text → Except UsageError (List (Role × Text))
  | [] => .ok []
  | argument :: rest =>
    if argument = "--" then .ok ((.separator, argument) :: rest.map fun a => (.positional, a))
    else
      match role argument with
      | .error e => .error e
      | .ok r =>
        match roles rest with
        | .error e => .error e
        | .ok others => .ok ((r, argument) :: others)

/-- What the program is asked to do. -/
structure Invocation where
  /-- The paths to validate. -/
  paths : List Text
  /-- Whether the results are to be shown as JSON. -/
  json : Bool
  /-- The depth down to which rules are allowed, if it is given. -/
  maxDepth : Option DepthChoice
deriving DecidableEq

/-- What a command line asks for. -/
inductive Request where
  | help
  | run (invocation : Invocation)
deriving DecidableEq

/-- What has been read of a command line. -/
structure Progress where
  /-- The paths, once their run has been met. -/
  paths : Option (List Text) := none
  /-- Whether the results are to be shown as JSON. -/
  json : Bool := false
  /-- The depth, if it has been given. -/
  maxDepth : Option DepthChoice := none
  /-- The arguments that are not recognised, in order. -/
  extras : List Text := []

/-- What remains to be said at the end of a command line. -/
def Progress.finish (p : Progress) : Except UsageError Request :=
  match p.paths with
  | none => .error .missingPaths
  | some paths =>
    if p.extras = [] then .ok (.run { paths, json := p.json, maxDepth := p.maxDepth })
    else .error (.unrecognized p.extras)

/-- Takes up the value of the depth. In the place of a value `--` is none, and then no depth
compares with what is given. -/
def Progress.setDepth (p : Progress) (value : Text) : Except UsageError Progress :=
  if value = "--" then .ok { p with maxDepth := some .incomparable }
  else
    match value.settingInteger? with
    | some n => .ok { p with maxDepth := some (.bound n) }
    | none => .error (.notInteger .maxDepth value)

/-- What a value attached to the call for help means: behind the letter `h` it is further letters,
each of which is an option, and `h` alone is one. Anything else is refused from the first code point
that is none. -/
def attachedToHelp (attached : Attached) : Except UsageError Request :=
  if attached.toLetter ∧ attached.value ≠ [] then
    match attached.value.dropWhile (· = ('h' : CodePoint)) with
    | [] => .ok .help
    | rest => .error (.ignoredValue .help rest)
  else .error (.ignoredValue .help attached.value)

/-- The paths of a run that begins a list of arguments; the separator is none. -/
def runPaths (arguments : List (Role × Text)) : List Text :=
  (arguments.filter fun (r, _) => r != .separator).map Prod.snd

/-- Takes up a run of paths: the first that has any counts, and nothing of a later one does. -/
def Progress.takeRun (p : Progress) (arguments : List (Role × Text)) : Progress :=
  if p.paths = none ∧ runPaths arguments ≠ [] then { p with paths := some (runPaths arguments) }
  else { p with extras := p.extras ++ arguments.map Prod.snd }

/-- Reads arguments one after the other. `run` holds the run of paths that is being read. -/
def readArguments (p : Progress) (run : List (Role × Text)) :
    List (Role × Text) → Except UsageError Request
  | [] => (closeRun p run).finish
  | (.positional, a) :: rest => readArguments p (run ++ [(.positional, a)]) rest
  | (.separator, a) :: rest => readArguments p (run ++ [(.separator, a)]) rest
  | (.unknown, a) :: rest =>
    let p := closeRun p run
    readArguments { p with extras := p.extras ++ [a] } [] rest
  | (.option .help none, _) :: _ => .ok .help
  | (.option .help (some attached), _) :: _ => attachedToHelp attached
  | (.option .json none, _) :: rest => readArguments { closeRun p run with json := true } [] rest
  | (.option .json (some attached), _) :: _ => .error (.ignoredValue .json attached.value)
  | (.option .maxDepth (some attached), _) :: rest =>
    match (closeRun p run).setDepth attached.value with
    | .ok p => readArguments p [] rest
    | .error e => .error e
  | (.option .maxDepth none, _) :: (.positional, value) :: rest =>
    match (closeRun p run).setDepth value with
    | .ok p => readArguments p [] rest
    | .error e => .error e
  | (.option .maxDepth none, _) :: _ => .error (.missingValue .maxDepth)
where
  /-- Ends the run of paths that is being read, if there is one. -/
  closeRun (p : Progress) (run : List (Role × Text)) : Progress :=
    if run.isEmpty then p else p.takeRun run

/-- What a command line asks for, or what is wrong with it. -/
def parse (arguments : List Text) : Except UsageError Request :=
  match roles arguments with
  | .error e => .error e
  | .ok classified => readArguments {} [] classified

end Rulebook.CommandLine
