import Rulebook.Settings.Environment

/-!
# Environment files

A file of bindings `NAME=value`, one to a line. A name may follow `export` and may stand in single
quotes; a value may stand in quotes of either sort, where it may span lines and knows escapes, or
bare, where a blank and `#` begin a comment. A line that is no binding is skipped, and so is a byte
order mark at the beginning of the file. In every value,
`${NAME}` and `${NAME:-default}` are replaced: a variable of the environment counts before a binding
of the file, and a binding without a value counts as empty. Loading binds only what the environment
does not bind yet, so a second load of the same file changes nothing.
-/

set_option autoImplicit false

namespace Rulebook.EnvFile

/-- A name with the value that a line gives it, if it gives one. -/
abbrev Binding := Text × Option Text

/-! ## Lines -/

/-- A text up to its first line end, and the text from there on. -/
def restOfLine (t : Text) : Text × Text :=
  (t.takeWhile fun c => !c.isLineEnd, t.dropWhile fun c => !c.isLineEnd)

/-- A text behind its leading blanks that are no line ends. -/
def skipInline (t : Text) : Text := t.dropWhile CodePoint.isInlineBlank

/-- A text behind the word `export` and the blanks after it, if it begins so. -/
def skipExport (t : Text) : Text :=
  match Text.dropPrefix? "export" t with
  | some (c :: rest) => if c.isInlineBlank then skipInline rest else t
  | _ => t

/-- Reads a name; a comment in its place is none. A fault gives the text where it lies. -/
def readName : Text → Except Text (Option Text × Text)
  | [] => .error []
  | c :: rest =>
    if c = '#' then .ok (none, c :: rest)
    else if c = '\'' then
      match Text.cutAt '\'' rest with
      | (name, some behind) => if name.isEmpty then .error (c :: rest) else .ok (some name, behind)
      | (_, none) => .error (c :: rest)
    else
      let inName (c : CodePoint) : Bool :=
        c != ('=' : CodePoint) && c != ('#' : CodePoint) && !c.isBlank
      match (c :: rest).takeWhile inName with
      | [] => .error (c :: rest)
      | name => .ok (some name, (c :: rest).dropWhile inName)

/-- The text inside quotes, its escapes kept, and the text behind the closing quote. A backslash
takes the next code point with it, so the first quote that none takes closes. -/
def quotedSpan? (quote : CodePoint) : Text → Option (Text × Text)
  | [] => none
  | [c] => if c = quote then some ([], []) else none
  | c :: d :: rest =>
    if c = quote then some ([], d :: rest)
    else if c = '\\' then
      (quotedSpan? quote rest).map fun (inside, behind) => (c :: d :: inside, behind)
    else (quotedSpan? quote (d :: rest)).map fun (inside, behind) => (c :: inside, behind)

/-- A text with its escapes replaced; a backslash before any other letter stays. -/
def unescape (decode? : CodePoint → Option CodePoint) : Text → Text
  | [] => []
  | [c] => [c]
  | c :: d :: rest =>
    if c = '\\' then
      match decode? d with
      | some plain => plain :: unescape decode? rest
      | none => c :: unescape decode? (d :: rest)
    else c :: unescape decode? (d :: rest)

/-- The escapes between single quotes. -/
def singleEscape? (c : CodePoint) : Option CodePoint :=
  if c = '\\' ∨ c = '\'' then some c else none

/-- The escapes between double quotes. -/
def doubleEscape? (c : CodePoint) : Option CodePoint :=
  if c = '\\' ∨ c = '\'' ∨ c = '"' then some c
  else if c = 'a' then some (CodePoint.ofNat 0x7)
  else if c = 'b' then some (CodePoint.ofNat 0x8)
  else if c = 'f' then some (CodePoint.ofNat 0xC)
  else if c = 'n' then some (CodePoint.ofNat 0xA)
  else if c = 'r' then some (CodePoint.ofNat 0xD)
  else if c = 't' then some (CodePoint.ofNat 0x9)
  else if c = 'v' then some (CodePoint.ofNat 0xB)
  else none

/-- A bare value up to the first `#` that follows a blank. -/
def cutComment (afterBlank : Bool) : Text → Text
  | [] => []
  | c :: rest => if afterBlank && c = '#' then [] else c :: cutComment c.isBlank rest

/-- Reads a value from behind the equals sign and the blanks after it, of which there may be
none. -/
def readValue (afterBlank : Bool) (t : Text) : Except Text (Text × Text) :=
  match t with
  | [] => .ok ([], [])
  | c :: rest =>
    if c = '\'' then
      match quotedSpan? c rest with
      | some (inside, behind) => .ok (unescape singleEscape? inside, behind)
      | none => .error t
    else if c = '"' then
      match quotedSpan? c rest with
      | some (inside, behind) => .ok (unescape doubleEscape? inside, behind)
      | none => .error t
    else
      let (line, behind) := restOfLine t
      .ok ((cutComment afterBlank line).trimEnd CodePoint.isBlank, behind)

/-- A text behind a comment, if it begins with one. -/
def skipComment (t : Text) : Text :=
  match skipInline t with
  | c :: rest => if c = '#' then (restOfLine rest).2 else t
  | [] => t

/-- A text behind one line end: a line feed, a carriage return or both in this order. -/
def skipLineEnd : Text → Text
  | [] => []
  | c :: rest =>
    if c = '\r' then (Text.dropPrefix? "\n" rest).getD rest
    else if c = '\n' then rest
    else c :: rest

/-- A text behind the end of its line, which blanks may precede. -/
def endLine (t : Text) : Except Text Text :=
  match skipInline t with
  | [] => .ok []
  | c :: rest => if c.isLineEnd then .ok (skipLineEnd (c :: rest)) else .error t

/-- Reads one binding, which begins at a name. -/
def readBinding (t : Text) : Except Text (Option Binding × Text) :=
  match readName (skipExport t) with
  | .error fault => .error fault
  | .ok (name, rest) =>
    let finish (value : Option Text) (rest : Text) : Except Text (Option Binding × Text) :=
      (endLine (skipComment rest)).map fun behind => (name.map fun n => (n, value), behind)
    match skipInline rest with
    | [] => finish none []
    | c :: behind =>
      if c = '=' then
        match readValue (behind.head?.any CodePoint.isInlineBlank) (skipInline behind) with
        | .error fault => .error fault
        | .ok (value, rest) => finish (some value) rest
      else finish none (c :: behind)

/-- The bindings of a text in order; `fuel` bounds the number of lines. -/
def bindingsFrom : (fuel : Nat) → Text → List Binding
  | 0, _ => []
  | fuel + 1, t =>
    match t.dropWhile CodePoint.isBlank with
    | [] => []
    | c :: rest =>
      match readBinding (c :: rest) with
      | .ok (some binding, behind) => binding :: bindingsFrom fuel behind
      | .ok (none, behind) => bindingsFrom fuel behind
      | .error fault => bindingsFrom fuel (skipLineEnd (restOfLine fault).2)

/-- The bindings of a file, whose line ends are unified before, and which may begin with a byte
order mark. -/
def bindings (source : Text) : List Binding :=
  bindingsFrom (source.length + 1) source.dropMark.unifyLineEnds

/-! ## Replacing variables -/

/-- A reference to a variable, and the text behind it. -/
structure Reference where
  /-- The name of the variable. -/
  name : Text
  /-- What stands for the variable if it is not bound. -/
  fallback : Text
  /-- The text behind the reference. -/
  behind : Text

/-- The reference that a text begins with, from behind its `$`. -/
def reference? (t : Text) : Option Reference :=
  match Text.dropPrefix? "\x7b" t with
  | none => none
  | some inside =>
    let inName (c : CodePoint) : Bool := c != ('}' : CodePoint) && c != (':' : CodePoint)
    let name := inside.takeWhile inName
    let rest := inside.dropWhile inName
    match Text.dropPrefix? ":-" rest with
    | some tail =>
      match Text.cutAt '}' tail with
      | (fallback, some behind) => some { name, fallback, behind }
      | (_, none) => none
    | none => (Text.dropPrefix? "\x7d" rest).map fun behind => { name, fallback := [], behind }

/-- A piece of a value: a code point that stands for itself or a reference to a variable. -/
inductive Piece where
  | plain (c : CodePoint)
  | reference (name fallback : Text)
deriving DecidableEq

/-- The pieces of a value; `fuel` bounds their number. -/
def piecesFrom : (fuel : Nat) → Text → List Piece
  | 0, _ => []
  | _ + 1, [] => []
  | fuel + 1, c :: rest =>
    if c = '$' then
      match reference? rest with
      | some r => .reference r.name r.fallback :: piecesFrom fuel r.behind
      | none => .plain c :: piecesFrom fuel rest
    else .plain c :: piecesFrom fuel rest

/-- The pieces of a value. -/
def pieces (t : Text) : List Piece := piecesFrom t.length t

/-- What a piece stands for. -/
def Piece.text (value? : Text → Option Text) : Piece → Text
  | .plain c => [c]
  | .reference name fallback => (value? name).getD fallback

/-- A value with its references replaced. -/
def interpolate (value? : Text → Option Text) (t : Text) : Text :=
  (pieces t).flatMap (Piece.text value?)

/-- Gives a name a value: in place if the name is present, at the end otherwise. -/
def assign (name : Text) (value : Option Text) : List Binding → List Binding
  | [] => [(name, value)]
  | (n, v) :: rest =>
    if n = name then (n, value) :: rest else (n, v) :: assign name value rest

/-- What a reference stands for: the environment counts before the bindings so far, and a binding
without a value is empty. -/
def resolvedValue? (env : Environment) (resolved : List Binding) (name : Text) : Option Text :=
  match env.get? name with
  | some value => some value
  | none => (List.lookup name resolved).map fun value => value.getD []

/-- The bindings with their references replaced, each by those before it; of several bindings of a
name the last counts, at the place of the first. -/
def resolve (env : Environment) (source : Text) : List Binding :=
  (bindings source).foldl
    (fun resolved (name, value) =>
      assign name (value.map (interpolate (resolvedValue? env resolved))) resolved)
    []

/-- Binds each name that the environment does not bind yet. There is no result if a name or a value
cannot be bound in an environment. -/
def bindAll? : List Binding → Environment → Option Environment
  | [], env => some env
  | (_, none) :: rest, env => bindAll? rest env
  | (name, some value) :: rest, env =>
    if (env.get? name).isSome then bindAll? rest env
    else if Environment.admits name value then bindAll? rest (env.bindNew name value)
    else none

/-- Loads a file into an environment, and says whether the file has any binding. -/
def load? (env : Environment) (source : Text) : Option (Environment × Bool) :=
  let resolved := resolve env source
  (bindAll? resolved env).map fun loaded => (loaded, !resolved.isEmpty)

/-- Loads a file that may be absent, unless the environment switches such files off. -/
def loadIfPresent? (env : Environment) : Option Text → Option (Environment × Bool)
  | some source => if Settings.ignoresEnvFiles env then some (env, false) else load? env source
  | none => some (env, false)

/-- The name that a piece refers to, if it is a reference. -/
def Piece.name? : Piece → Option Text
  | .plain _ => none
  | .reference name _ => some name

/-- The names that a file binds or refers to: loading asks the environment for no others. -/
def names (source : Text) : List Text :=
  (bindings source).flatMap fun (name, value) =>
    name :: ((value.map pieces).getD []).filterMap Piece.name?

end Rulebook.EnvFile
