import Rulebook.Service.Host
import Rulebook.Text.Integer
import Rulebook.Text.Utf8

/-!
# Addresses

An address as a request is sent to it: a scheme, who asks, a host with a port, a path and a query,
each of which may be absent. Only one with a scheme and a host leads anywhere by itself; any other
one is taken from the root of the service. In a path that belongs to a scheme or a host the names
`.` and `..` are resolved before anything is decoded. What follows `#` does not belong to an
address.
-/

set_option autoImplicit false

namespace Rulebook

/-- An address, taken apart. -/
structure Address where
  scheme : Text
  user : Text
  host : Text
  port : Text
  path : Text
  query : Option Text
deriving DecidableEq

namespace Address

/-! ## Taking apart -/

/-- A letter of ASCII. -/
def isLetter (c : CodePoint) : Bool := 0x61 ≤ c.toLowerAscii.val && c.toLowerAscii.val ≤ 0x7A

/-- What may follow the first letter of a scheme. -/
def isSchemeMark (c : CodePoint) : Bool :=
  isLetter c || c.isDigit || c = '+' || c = '.' || c = '-'

/-- Whether a text is a scheme, which may be empty. -/
def isScheme : Text → Bool
  | [] => true
  | c :: rest => isLetter c && rest.all isSchemeMark

/-- The scheme that a colon ends, and the text behind it. -/
def cutScheme (t : Text) : Text × Text :=
  match Text.cutAt ':' t with
  | (scheme, some rest) => if isScheme scheme then (scheme, rest) else ([], t)
  | (_, none) => ([], t)

/-- What two slashes announce, up to the path, the query or the fragment. -/
def cutAuthority (t : Text) : Text × Text :=
  let inside (c : CodePoint) : Bool := c != '/' && c != '?'
  match Text.dropPrefix? "//" t with
  | some rest => (rest.takeWhile inside, rest.dropWhile inside)
  | none => ([], t)

/-- Who asks, up to the last at sign, and the text behind it. -/
def cutUser (authority : Text) : Text × Text :=
  match Text.cutAt '@' authority.reverse with
  | (behind, some user) => (user.reverse, behind.reverse)
  | (_, none) => ([], authority)

/-- A host and the text behind it. Brackets enclose a host up to the last of them; any other host
ends at a colon. -/
def cutHost (t : Text) : Text × Text :=
  let bracket : CodePoint := ']'
  let colon : CodePoint := ':'
  if t.head? = some '[' ∧ t.contains bracket then
    let behind := t.reverse.takeWhile (· ≠ bracket)
    (t.take (t.length - behind.length), behind.reverse)
  else (t.takeWhile (· ≠ colon), t.dropWhile (· ≠ colon))

/-- Takes an address apart. -/
def ofText (t : Text) : Address :=
  let (scheme, rest) := cutScheme (t.cutAt '#').1
  let (authority, rest) := cutAuthority rest
  let (user, authority) := cutUser authority
  let (host, behind) := cutHost authority
  let (path, query) := Text.cutAt '?' rest
  { scheme, user, host, port := (Text.dropPrefix? ":" behind).getD behind, path, query }

/-! ## Resolving dots -/

/-- The names of a path with `.` and `..` resolved; `done` holds the names before, the latest first.
Nothing goes back behind the beginning. -/
def resolveDots (done : List Text) : List Text → List Text
  | [] => done.reverse
  | name :: rest =>
    if name = "." then resolveDots done rest
    else if name = ".." then
      resolveDots (if done = [] ∨ done = [[]] then done else done.drop 1) rest
    else resolveDots (name :: done) rest

/-- A path with its dots resolved. -/
def resolvePath (t : Text) : Text := Text.join "/" (resolveDots [] (t.splitOn '/'))

/-! ## Validity -/

/-- Whether an address names a place besides its path. -/
def hasAuthority (a : Address) : Bool := a.user ≠ [] || a.host ≠ [] || a.port ≠ []

/-- Whether a port is absent or an integer. -/
def isPort (port : Text) : Bool := port = [] || port.settingInteger?.isSome

/-- Whether the path of an address may stand where it stands: without scheme and place, two slashes
or a colon at its beginning would be taken for theirs. -/
def hasPlainPath (a : Address) : Bool :=
  a.scheme ≠ [] || a.hasAuthority ||
    (Text.dropPrefix? "//" a.path = none && Text.dropPrefix? ":" a.path = none)

/-- Whether an address is valid. -/
def isValid (a : Address) : Bool := Host.isHost a.host && isPort a.port && a.hasPlainPath

/-- The most code points that an address or a part of it may have. -/
def lengthLimit : Nat := 65536

/-- A control character of ASCII. -/
def isControl (c : CodePoint) : Bool := c.val < 0x20 || c.val == 0x7F

/-- The number of code points that it takes to write a text where those that are not free are
written byte by byte, each byte as three. -/
def writtenLength (isFree : CodePoint → Bool) (t : Text) : Nat :=
  t.foldl (fun n c => n + if isFree c then 1 else 3 * (Utf8.encodeCodePoint c).length) 0

/-- The printable code points of ASCII that a query is free to have: all but the blank and four
marks. -/
def isFreeInQuery (c : CodePoint) : Bool :=
  0x20 < c.val && c.val < 0x7F && c != '"' && c != '#' && c != '<' && c != '>'

/-- The printable code points of ASCII that a path is free to have: those that a query is, without
the question mark, the grave accent and the braces. -/
def isFreeInPath (c : CodePoint) : Bool :=
  isFreeInQuery c && c.val != 0x3F && c.val != 0x60 && c.val != 0x7B && c.val != 0x7D

/-- The code points that a name or a value of a list is free to have, a blank standing for a
plus. -/
def isFreeInList (c : CodePoint) : Bool :=
  isLetter c || c.isDigit || c = '_' || c = '.' || c = '-' || c = '~' || c = ' '

/-- Whether path and query are short enough to be written. -/
def isShort (a : Address) : Bool :=
  writtenLength isFreeInPath a.path ≤ lengthLimit &&
    a.query.all fun query => writtenLength isFreeInQuery query ≤ lengthLimit

/-! ## Reading -/

/-- An address from the root of the service: whatever place it names is left out. -/
def rooted (a : Address) : Address :=
  let path : Text := "/" ++ a.path.dropWhile (· = ('/' : CodePoint))
  { a with scheme := "http", user := [], host := [], port := [], path }

/-- Reads an address as it is written. There is none if it is too long, has a control character or
is not valid. -/
def ofText? (t : Text) : Option Address :=
  let a := ofText t
  if lengthLimit < t.length ∨ t.any isControl ∨ !a.isValid then none
  else
    let resolved : Address :=
      if a.scheme ≠ [] ∨ a.hasAuthority then { a with path := resolvePath a.path } else a
    if a.scheme ≠ [] ∧ a.host ≠ [] then some { resolved with scheme := a.scheme.toLowerAscii }
    else
      let rooted := resolved.rooted
      if rooted.isShort then some { rooted with path := resolvePath rooted.path } else none

/-- An address with its query replaced by a list of names and values, if that is short enough to be
written with an equals sign in every entry and an ampersand between neighbours. -/
def withQuery? (a : Address) (query : List (Text × Text)) : Option Address :=
  let written (n : Nat) (entry : Text × Text) : Nat :=
    n + writtenLength isFreeInList entry.1 + writtenLength isFreeInList entry.2 + 2
  let replaced : Address := { a with query := none }
  if replaced.isShort ∧ query.foldl written 0 ≤ lengthLimit + 1 then some replaced else none

end Address

end Rulebook
