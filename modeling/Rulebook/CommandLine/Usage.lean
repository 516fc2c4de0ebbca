import Rulebook.Text

/-!
# Usage

What the program says about how to call it, set for a terminal of a given width. The call stands on
one line if there is room for it; otherwise options and paths are set apart, under the name of the
program or, where that takes too much of the width, to the left of its end. Explanations stand in a
column of their own, which moves to the left on a narrow terminal.
-/

set_option autoImplicit false

namespace Rulebook.CommandLine

/-- The name of the program. -/
def program : Text := "brij-validate"

/-- The options as a call shows them. -/
def optionParts : List Text := ["[-h]", "[--json]", "[--max-depth MAX_DEPTH]"]

/-- The paths as a call shows them. -/
def pathParts : List Text := ["paths", "[paths ...]"]

/-- What stands before a call. -/
def usageLabel : Text := "usage: "

/-- What the program does. -/
def description : Text := "Validate brij rule set documents."

/-- An argument with what it is for. -/
structure Explanation where
  argument : Text
  purpose : Text
deriving DecidableEq

/-- The arguments that are told apart by their places. -/
def positionalArguments : List Explanation := [
  { argument := "paths", purpose := "Rule set JSON files to validate" }]

/-- The options. -/
def optionArguments : List Explanation := [
  { argument := "-h, --help", purpose := "show this help message and exit" },
  { argument := "--json", purpose := "Print results as JSON" },
  { argument := "--max-depth MAX_DEPTH", purpose := "Maximum rule nesting depth" }]

/-! ## Setting words into lines -/

/-- Words set into lines behind those that the line begins with. There is room for `room` code
points in this line and for `others` in every later one. -/
def fillFrom (room others : Int) (line : Text) : List Text → List Text
  | [] => [line]
  | word :: rest =>
    let longer : Text := line ++ " " ++ word
    if longer.length ≤ room then fillFrom room others longer rest
    else line :: fillFrom others others word rest

/-- Words set into lines, with a blank between neighbours. There is room for `first` code points in
the first line and for `others` in every other one; a word that is longer has a line to itself. -/
def fill (first others : Int) : List Text → List Text
  | [] => []
  | word :: rest => fillFrom first others word rest

/-- So many blanks. -/
def blanks (n : Nat) : Text := List.replicate n ' '

/-- Lines with line feeds between them, all but the first set in by so many blanks. -/
def hang (n : Nat) (lines : List Text) : Text := Text.join ("\n" ++ blanks n) lines

/-! ## The call -/

/-- A call that does not fit on one line, with options and paths under the name of the program. -/
def hangingCall (width : Int) : Text :=
  let indent := usageLabel.length + program.length + 1
  hang indent
    (fill (width - usageLabel.length) (width - indent) (program :: optionParts) ++
      fill (width - indent) (width - indent) pathParts)

/-- A call with the name of the program on a line of its own. -/
def stackedCall (width : Int) : Text :=
  let room := width - usageLabel.length
  let lines (parts : List Text) : List Text := fill room room parts
  let together := lines (optionParts ++ pathParts)
  hang usageLabel.length
    (program :: if together.length ≤ 1 then together else lines optionParts ++ lines pathParts)

/-- How to call the program, set for a number of columns. Options are set under the name of the
program if it leaves a quarter of the columns free. -/
def usage (width : Int) : Text :=
  let call := Text.join " " (program :: optionParts ++ pathParts)
  let label : Int := usageLabel.length
  if label + call.length ≤ width then usageLabel ++ call ++ "\n"
  else if 4 * (label + program.length) ≤ 3 * width then usageLabel ++ hangingCall width ++ "\n"
  else usageLabel ++ stackedCall width ++ "\n"

/-! ## Explanations -/

/-- The least number of columns that a text is set for. -/
def leastRoom : Int := 11

/-- A text set into lines for a number of columns. -/
def paragraph (width : Int) (t : Text) : List Text :=
  fill (max width leastRoom) (max width leastRoom) (t.splitOn ' ')

/-- The column where purposes begin: the one after 24, or further to the left on a narrow
terminal. -/
def purposeColumn (width : Int) : Nat := (min 24 (max (width - 20) 4)).toNat

/-- An argument with its purpose, which begins on the same line if the argument leaves two blanks
before the column of purposes. -/
def Explanation.set (width : Int) (e : Explanation) : Text :=
  let column := purposeColumn width
  let purpose := hang column (paragraph (width - column) e.purpose) ++ "\n"
  let head : Text := "  " ++ e.argument
  if head.length + 2 ≤ column then head ++ blanks (column - head.length) ++ purpose
  else head ++ "\n" ++ blanks column ++ purpose

/-- Explanations under a heading. -/
def explanationSection (width : Int) (heading : Text) (explanations : List Explanation) : Text :=
  "\n" ++ heading ++ ":\n" ++ explanations.flatMap (Explanation.set width)

/-- What the program says on request about how to call it. -/
def helpText (width : Int) : Text :=
  usage width ++ "\n" ++ Text.join "\n" (paragraph width description) ++ "\n" ++
    explanationSection width "positional arguments" positionalArguments ++
    explanationSection width "options" optionArguments

end Rulebook.CommandLine
