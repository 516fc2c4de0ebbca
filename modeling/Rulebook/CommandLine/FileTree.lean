import Rulebook.CommandLine.FilePath
import Rulebook.Text.Quoted
import Rulebook.Text.Utf8

/-!
# Files

What reading a path gives: the bytes of a file, or the reason why there are none. A file tree holds
files and directories under a working directory. A path is followed name by name, and every name but
the last must lead to a directory; `..` leads back, above the working directory too, up to the root
of the system, of which only what every system has is known. A path that is too long is refused
before it is followed. A tree is built by putting entries at places, whose directories are made with
them; a file is no directory, and nothing is put where it is in the way.
-/

set_option autoImplicit false

namespace Rulebook

/-- Why a path has no bytes to read. -/
inductive AccessFault where
  | missing
  | isDirectory
  | notDirectory
  | nameTooLong
  /-- Any other error of the system, by its number and wording. -/
  | system (number : Nat) (wording : Text)
deriving DecidableEq, Repr

/-- Why a path has no text to read. -/
inductive ReadFault where
  | access (fault : AccessFault)
  | notText (fault : Utf8.Fault)
deriving DecidableEq

/-- The number and the wording of the system's error, followed by the path it concerns. -/
def systemError (number : Nat) (wording : Text) (path : FilePath) : Text :=
  "[Errno " ++ Text.ofNat number ++ "] " ++ wording ++ ": " ++ path.text.quoted

/-- The message on a path that could not be read. -/
def ReadFault.message (path : FilePath) : ReadFault → Text
  | .access .missing => "File not found: " ++ path.text
  | .access .isDirectory => unreadable (systemError 21 "Is a directory" path)
  | .access .notDirectory => unreadable (systemError 20 "Not a directory" path)
  | .access .nameTooLong => unreadable (systemError 36 "File name too long" path)
  | .access (.system number wording) => unreadable (systemError number wording path)
  | .notText fault => unreadable fault.message
where
  /-- The message with the detail of why the file is unreadable. -/
  unreadable (detail : Text) : Text := "Unreadable file " ++ path.text ++ ": " ++ detail

/-- The text of a file from its bytes: UTF-8 with every line end a line feed. -/
def fileText (bytes : List UInt8) : Except ReadFault Text :=
  match Utf8.decode bytes with
  | .ok t => .ok t.unifyLineEnds
  | .error fault => .error (.notText fault)

/-- The bytes that reading a path gives, or why there are none. -/
abbrev Access := Except AccessFault (List UInt8)

/-- The text that reading a path gives, or why there is none. -/
def Access.text : Access → Except ReadFault Text
  | .ok bytes => fileText bytes
  | .error fault => .error (.access fault)

/-- What stands at a place of a file tree. -/
inductive FileEntry where
  | file (bytes : List UInt8)
  | directory
deriving DecidableEq

/-- Files and directories by the names that lead to them from the working directory. -/
abbrev FileTree := List (List Text × FileEntry)

namespace FileTree

/-- What stands at a place: an entry, or a directory that some entry lies in. -/
def entry? (tree : FileTree) (place : List Text) : Option FileEntry :=
  match tree.lookup place with
  | some e => some e
  | none =>
    if place = [] ∨ tree.any (fun (names, _) => place.isPrefixOf names) then some .directory
    else none

/-- The names in the root directory of a system. -/
def systemDirectories : List Text := [
  "bin", "boot", "dev", "etc", "home", "lib", "media", "mnt", "opt", "proc", "root", "run", "sbin",
  "srv", "sys", "tmp", "usr", "var"]

/-- What every system has outside the working directory, by the names that lead there from the root.
Reading the null device gives nothing, and the list of accounts begins with the first one. -/
def system : FileTree :=
  (["dev", "null"], .file []) ::
    (["etc", "passwd"], .file (Utf8.encode "root:x:0:0:root:/root:/bin/sh\n")) ::
    systemDirectories.map fun name => ([name], .directory)

/-- Where a path has led so far. -/
inductive Position where
  /-- The directory with this place in the tree. -/
  | inside (place : List Text)
  /-- The directory above the working directory, in which nothing else is known. -/
  | above
  /-- The directory with this place in the system; above the root there is the root again. -/
  | outside (place : List Text)

/-- The directory that holds the one where a path has led. The working directory lies two levels
below the root. -/
def Position.parent : Position → Position
  | .inside [] => .above
  | .inside place => .inside place.dropLast
  | .above => .outside []
  | .outside place => .outside place.dropLast

/-- What stands under a name in a directory, and where the name leads. -/
def Position.child? (tree : FileTree) (name : Text) : Position → Option (FileEntry × Position)
  | .inside place => (tree.entry? (place ++ [name])).map fun e => (e, .inside (place ++ [name]))
  | .above => none
  | .outside place => (system.entry? (place ++ [name])).map fun e => (e, .outside (place ++ [name]))

/-- The most bytes that a name may have. -/
def nameLimit : Nat := 255

/-- The most bytes that a path may have. -/
def pathLimit : Nat := 4095

/-- Follows the names of a path from a directory. -/
def follow (tree : FileTree) : Position → List Text → Access
  | _, [] => .error .isDirectory
  | position, name :: rest =>
    if nameLimit < (Utf8.encode name).length then .error .nameTooLong
    else if name = ".." then follow tree position.parent rest
    else
      match position.child? tree name with
      | none => .error .missing
      | some (.directory, below) => follow tree below rest
      | some (.file bytes, _) => if rest = [] then .ok bytes else .error .notDirectory

/-- Reads the file at a path. An absolute path leads out of the tree. -/
def read (tree : FileTree) (path : FilePath) : Access :=
  if pathLimit < (Utf8.encode path.text).length then .error .nameTooLong
  else if path.root = [] then tree.follow (.inside []) path.names
  else tree.follow (.outside []) path.names

/-! ## Building a tree -/

/-- Why an entry cannot be put into a tree. -/
inductive PlaceFault where
  /-- A name holds a surrogate that stands for no byte. -/
  | unencodable
  /-- A name has a NUL. -/
  | malformed
  | nameTooLong
  /-- There is a file on the way. -/
  | notDirectory
  /-- There is a file where a directory is to be. -/
  | occupied
  /-- There is a directory where a file is to be. -/
  | isDirectory
deriving DecidableEq, Repr

/-- Whether there is a file at a place. -/
def holdsFile (tree : FileTree) (place : List Text) : Bool :=
  match tree.lookup place with
  | some (.file _) => true
  | _ => false

/-- What is wrong with the names of a place. -/
def nameFault? (place : List Text) : Option PlaceFault :=
  if !place.all Text.fitsSystem then some .unencodable
  else if place.any fun name => name.contains (CodePoint.ofNat 0) then some .malformed
  else if place.any fun name => nameLimit < (Utf8.encode name).length then some .nameTooLong
  else none

/-- Why no directory can be made at a place together with those on the way. -/
def directoryFault? (tree : FileTree) (place : List Text) : Option PlaceFault :=
  if (List.range place.length).any fun n => tree.holdsFile (place.take n) then some .notDirectory
  else if tree.holdsFile place then some .occupied
  else none

/-- Why an entry cannot be put at a place, if it cannot. -/
def placeFault? (tree : FileTree) (place : List Text) : FileEntry → Option PlaceFault
  | .directory => nameFault? place <|> tree.directoryFault? place
  | .file _ =>
    nameFault? place <|> tree.directoryFault? place.dropLast <|>
      if tree.entry? place = some .directory then some .isDirectory else none

/-- Puts an entry at a place; a file takes the place of one that is there. -/
def put (tree : FileTree) (place : List Text) (e : FileEntry) : Except PlaceFault FileTree :=
  match tree.placeFault? place e with
  | some fault => .error fault
  | none => .ok ((place, e) :: tree)

end FileTree

end Rulebook
