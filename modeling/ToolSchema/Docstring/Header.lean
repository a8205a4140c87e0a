/-
Section headers: a title, a colon, and for return sections perhaps text on the same line.

Titles are compared in lower case. Only a return header may go on after the colon; with text there, any other line is
not a header.
-/
import ToolSchema.Text.Basic

namespace ToolSchema.Docstring

open Text

inductive Header where
  | params
  | returns
  | other
  deriving DecidableEq

namespace Header

def paramTitles : List String :=
  ["args", "arguments", "parameters", "params", "keyword args", "keyword arguments", "kwargs", "other parameters"]

def returnTitles : List String := ["returns", "return"]

def otherTitles : List String :=
  ["raises", "yields", "yield", "examples", "example", "note", "notes", "attributes", "see also", "warning", "warnings",
    "todo", "references"]

/-- the kind of header that a line is, and the text after its colon -/
def ofLine? (line : Line) : Option (Header × Line) := do
  let (title, rest) ← splitOnce ':' (trim line)
  let title := lowerAscii (trim title)
  let rest := trim rest
  if isOneOf returnTitles title then some (.returns, rest)
  else if !rest.isEmpty then none
  else if isOneOf paramTitles title then some (.params, rest)
  else if isOneOf otherTitles title then some (.other, rest)
  else none

end Header

/-- a header with nothing after its colon -/
def isBareHeader (line : Line) : Bool :=
  match Header.ofLine? line with
  | some (_, []) => true
  | _ => false

end ToolSchema.Docstring
