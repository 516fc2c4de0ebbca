import Rulebook.Service.Label
import Rulebook.Text.Classes

/-!
# Hosts

What may stand for a host in an address. A host of four numbers has to be an address of version 4,
and one in brackets an address of version 6. A name of ASCII may be anything. Any other name is a
row of labels, in letters of either case.
-/

set_option autoImplicit false

namespace Rulebook.Host

/-! ## Addresses -/

/-- Whether a text is four runs of digits with dots between them. -/
def looksNumeric (t : Text) : Bool :=
  let runs := t.splitOn '.'
  runs.length = 4 && runs.all fun run => run ≠ [] && run.all CodePoint.isDigit

/-- Whether a text is a number below 256 without needless zeros. -/
def isOctet (t : Text) : Bool :=
  t.all CodePoint.isDigit && t ≠ [] && t.length ≤ 3 &&
    (t.length = 1 || t.head? ≠ some ('0' : CodePoint)) &&
    t.digitsValue < 256

/-- Whether a text is an address of version 4. -/
def isVersion4 (t : Text) : Bool :=
  let octets := t.splitOn '.'
  octets.length = 4 && octets.all isOctet

/-- Whether a text is one of the eight groups of an address of version 6. -/
def isGroup (t : Text) : Bool :=
  t ≠ [] && t.length ≤ 4 && t.all fun c => c.hexValue?.isSome

/-- The parts of an address of version 6 between its colons; an address of version 4 at the end
counts as two groups. There are none if the end is no such address. -/
def groups? (t : Text) : Option (List Text) :=
  let parts := t.splitOn ':'
  match parts.getLast? with
  | none => none
  | some last =>
    if last.contains '.' then
      if isVersion4 last then some (parts.dropLast ++ (["0", "0"] : List Text)) else none
    else some parts

/-- Whether parts beside a gap are groups; at an end of the address there may be nothing. -/
def areBesideGap (parts : List Text) : Bool := parts = [[]] || parts.all isGroup

/-- Whether parts are eight groups, or fewer with one gap between two colons in the place of those
that are left out. -/
def areGroups (parts : List Text) : Bool :=
  let inner := (parts.drop 1).dropLast
  if inner.contains [] then
    let front := parts.take (1 + inner.idxOf [])
    let back := parts.drop (2 + inner.idxOf [])
    inner.count ([] : Text) = 1 && areBesideGap front && areBesideGap back &&
      parts.countP (· ≠ []) ≤ 7
  else parts.length = 8 && parts.all isGroup

/-- Whether a text is an address of version 6, which the name of a zone may follow. -/
def isVersion6 (t : Text) : Bool :=
  let (address, zone) := Text.cutAt '%' t
  let hasZone : Bool := zone.all fun (z : Text) => z ≠ [] && !z.contains '%'
  hasZone && 2 ≤ address.count (':' : CodePoint) && (groups? address).any areGroups

/-! ## Names -/

/-- Whether a code point stands between labels: a full stop, also an ideographic, a wide or a narrow
one. -/
def isDot (c : CodePoint) : Bool :=
  c = '.' || c.val = 0x3002 || c.val = 0xFF0E || c.val = 0xFF61

/-- The most code points that a name has where it is written, a dot at its end not being counted. -/
def nameLimit : Nat := 253

/-- The texts between the dots of a name, in lower case; a dot may end the name. -/
def labels (t : Text) : List Text :=
  let marked : Text := t.toLower.map fun c => if isDot c then '.' else c
  let pieces := marked.splitOn '.'
  if pieces.getLast? = some [] then pieces.dropLast else pieces

/-- Whether a text is a row of labels. -/
def isName (t : Text) : Bool :=
  match (labels t).mapM Label.writtenLength? with
  | some lengths => lengths.foldl (· + ·) (lengths.length - 1) ≤ nameLimit
  | none => false

/-- The text between the brackets that enclose a host. -/
def unbracketed? (t : Text) : Option Text :=
  match t with
  | c :: rest =>
    if c = '[' ∧ rest.getLast? = some (']' : CodePoint) then some rest.dropLast else none
  | [] => none

/-- Whether a text may stand for a host. -/
def isHost (t : Text) : Bool :=
  if t = [] then true
  else if looksNumeric t then isVersion4 t
  else
    match unbracketed? t with
    | some address => isVersion6 address
    | none => t.all (·.val < 0x80) || isName t

end Rulebook.Host
