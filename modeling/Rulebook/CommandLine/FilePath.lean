import Rulebook.Text

/-!
# File paths

A path is a root, which may be absent, and the names on the way from it. Repeated slashes, slashes
at the end and the name `.` mean nothing and are dropped; the name `..` stays, since what it leads
to depends on the files. Exactly two slashes at the beginning are a root of their own.
-/

set_option autoImplicit false

namespace Rulebook

/-- A path in normal form. -/
structure FilePath where
  /-- The slashes that an absolute path begins with. -/
  root : Text
  /-- The names from the root, or from the working directory, on. -/
  names : List Text
deriving DecidableEq

namespace FilePath

/-- The path that a text denotes. -/
def ofText (t : Text) : FilePath :=
  let slashes := (t.takeWhile (· = ('/' : CodePoint))).length
  { root := if slashes = 0 then [] else if slashes = 2 then "//" else "/"
    names := (t.splitOn '/').filter fun name => name ≠ [] ∧ name ≠ "." }

/-- The text of a path; the working directory is `.`. -/
def text (p : FilePath) : Text :=
  match p.root ++ Text.join "/" p.names with
  | [] => "."
  | t => t

end FilePath

end Rulebook
