/-
Operations on lines of text, as lists of characters.

Blanks are those of `isBlank`, the indentation of a line counts plain spaces only. Splitting keeps empty pieces:
`splitOn` gives one piece more than there are separators.
-/
import ToolSchema.Text.Blank

namespace ToolSchema

/-- one line of text, without its end -/
abbrev Line := List Char

namespace Text

/-! ## Blanks around and inside a text -/

def trimStart (cs : List Char) : List Char :=
  cs.dropWhile isBlank

def trimEnd (cs : List Char) : List Char :=
  (cs.reverse.dropWhile isBlank).reverse

def trim (cs : List Char) : List Char :=
  trimEnd (trimStart cs)

/-- no character but blanks -/
def allBlank (cs : List Char) : Bool :=
  cs.all isBlank

/-- how many spaces a line begins with -/
def indent (line : Line) : Nat :=
  (line.takeWhile (· == ' ')).length

/-! ## Splitting -/

/-- the pieces between separators -/
def splitOn (separator : Char → Bool) : List Char → List (List Char)
  | [] => [[]]
  | c :: cs =>
    if separator c then [] :: splitOn separator cs
    else
      match splitOn separator cs with
      | [] => [[c]]
      | piece :: pieces => (c :: piece) :: pieces

/-- the maximal runs of characters that are not blank -/
def words (cs : List Char) : List (List Char) :=
  (splitOn isBlank cs).filter (!·.isEmpty)

/-- the text before the first separator and the text after it -/
def splitOnce (separator : Char) (cs : List Char) : Option (List Char × List Char) :=
  match cs.dropWhile (· != separator) with
  | [] => none
  | _ :: after => some (cs.takeWhile (· != separator), after)

/-- the text after a leading part, if the text begins with it -/
def dropPrefix? (lead cs : List Char) : Option (List Char) :=
  if lead.isPrefixOf cs then some (cs.drop lead.length) else none

/-- the text before and after the first occurrence of a part -/
def splitAround (part : List Char) : List Char → Option (List Char × List Char)
  | [] => if part.isEmpty then some ([], []) else none
  | c :: cs =>
    match dropPrefix? part (c :: cs) with
    | some after => some ([], after)
    | none => (splitAround part cs).map fun (before, after) => (c :: before, after)

/-- drop one carriage return at the end -/
def dropReturn (line : Line) : Line :=
  if line.getLast? = some '\r' then line.dropLast else line

/-- The lines of a text. Every line feed ends a line, together with one carriage return before it; what follows the last
line feed is a line unless it is empty. -/
def lines (cs : List Char) : List Line :=
  let pieces := splitOn (· == '\n') cs
  let final := pieces.getLast?.getD []
  pieces.dropLast.map dropReturn ++ (if final.isEmpty then [] else [final])

/-- lines with line feeds between them -/
def joinLines (ls : List Line) : List Char :=
  ['\n'].intercalate ls

/-! ## Substitution and joining -/

/-- every tab as four spaces -/
def expandTabs (cs : List Char) : List Char :=
  cs.flatMap fun c => if c = '\t' then [' ', ' ', ' ', ' '] else [c]

/-- the lower case of the letters A to Z, all else unchanged -/
def lowerAscii (cs : List Char) : List Char :=
  cs.map Char.toLower

/-- drop a character from both ends, as often as it stands there -/
def strip (c : Char) (cs : List Char) : List Char :=
  ((cs.dropWhile (· == c)).reverse.dropWhile (· == c)).reverse

/-- the words of all fragments with single spaces between them; nothing if there are none -/
def joinWords (fragments : List Line) : Option (List Char) :=
  let joined := [' '].intercalate (fragments.flatMap words)
  if joined.isEmpty then none else some joined

/-- the name inside blanks and backquotes, without the stars of a variadic parameter -/
def bareName (cs : List Char) : List Char :=
  (strip '\x60' (trim cs)).dropWhile (· == '*')

/-- one of the given words, written in lower case -/
def isOneOf (names : List String) (cs : List Char) : Bool :=
  names.any (·.toList == cs)

end Text

end ToolSchema
