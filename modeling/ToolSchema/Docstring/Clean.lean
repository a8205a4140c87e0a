/-
Documentation text in clean lines.

`clean` expands tabs, takes away the indentation that all lines but the first have in common, and drops blanks at the
ends of lines and blank lines at both ends. The first line has no indentation of its own, unless it is a bare header:
then its body is indented below it, and it counts like any other line.
-/
import ToolSchema.Docstring.Header

namespace ToolSchema.Docstring

open Text

/-! ## Cleaning -/

/-- the indentation that all lines with text have in common -/
def margin (ls : List Line) : Nat :=
  ((ls.filter (!allBlank ·)).map indent).min?.getD 0

/-- a line without the margin; a blank line is empty -/
def dedent (m : Nat) (line : Line) : Line :=
  if allBlank line then [] else trimEnd (line.drop m)

/-- drop empty lines at both ends -/
def trimLines (ls : List Line) : List Line :=
  (ls.dropWhile (·.isEmpty)).reverse.dropWhile (·.isEmpty) |>.reverse

def dedentAll : List Line → List Line
  | [] => []
  | first :: rest =>
    if isBareHeader first then
      let m := margin (first :: rest)
      (first :: rest).map (dedent m)
    else trim first :: rest.map (dedent (margin rest))

/-- the clean lines of a text -/
def clean (raw : List Char) : List Line :=
  trimLines (dedentAll (lines (expandTabs raw)))

/-! ## Summary and prose -/

/-- the first line with text, without blanks around it -/
def summary (ls : List Line) : List Char :=
  ((ls.map trim).find? (!·.isEmpty)).getD []

/-- lines as one text without blanks around it -/
def prose (ls : List Line) : List Char :=
  trim (joinLines ls)

end ToolSchema.Docstring
