/-
Parameter documentation in columns: titles underlined with dashes, and tables between pipes.

Under a parameter title, a line at the level of the title names one or more parameters and perhaps their type; deeper
lines are their text. A table has a header row with a name and a description column; a row without a name continues the
row above.
-/
import ToolSchema.Docstring.Findings

namespace ToolSchema.Docstring.Table

open Text

/-! ## Underlined titles -/

inductive Title where
  | params
  | returns
  | other
  deriving DecidableEq

def paramTitles : List String :=
  ["parameters", "params", "arguments", "args", "other parameters", "keyword arguments"]

def returnTitles : List String := ["returns", "return"]

def isUnderline (line : Line) : Bool :=
  let line := trim line
  decide (3 ≤ line.length) && line.all (· == '-')

def Title.ofText (text : Line) : Title :=
  let text := lowerAscii text
  if isOneOf paramTitles text then .params
  else if isOneOf returnTitles text then .returns
  else .other

/-- the title that the lines begin with: a line with text, and dashes below it -/
def title? : List Line → Option Title
  | line :: next :: _ => if (trim line).isEmpty || !isUnderline next then none else some (Title.ofText (trim line))
  | _ => none

/-! ## Rows -/

/-- the cells of a row; the pipe at its end may be missing -/
def cells? (line : Line) : Option (List Line) := do
  let inner ← dropPrefix? ['|'] (trim line)
  let inner := if inner.getLast? = some '|' then inner.dropLast else inner
  return (splitOn (· == '|') inner).map trim

def isRow (line : Line) : Bool :=
  (cells? line).isSome

/-- a row of dashes and colons, no cell of it empty -/
def isSeparator (cells : List Line) : Bool :=
  cells.all fun cell => !cell.isEmpty && cell.all fun c => c == '-' || c == ':'

/-- where the columns of a table are; there may be none for types -/
structure Columns where
  name : Nat
  typeName : Option Nat
  description : Nat

def nameColumns : List String := ["name", "field", "parameter", "param", "argument", "arg"]

def typeColumns : List String := ["type"]

def descriptionColumns : List String := ["description", "desc"]

/-- the first column with one of these headings -/
def column? (headings : List String) (cells : List Line) : Option Nat :=
  cells.findIdx? fun cell => isOneOf headings (lowerAscii cell)

/-- the columns that a header row names -/
def columns? (line : Line) : Option Columns := do
  let cells ← cells? line
  let name ← column? nameColumns cells
  let description ← column? descriptionColumns cells
  return ⟨name, column? typeColumns cells, description⟩

/-! ## Blocks -/

/-- the lines begin with a title or a header row -/
def startsBlock (ls : List Line) : Bool :=
  (title? ls).isSome || (ls.head?.bind columns?).isSome

/-- the lines up to the next title or header row -/
def body : List Line → List Line
  | [] => []
  | line :: rest => if startsBlock (line :: rest) then [] else line :: body rest

/-- the lines from the next title or header row on -/
def afterBody : List Line → List Line
  | [] => []
  | line :: rest => if startsBlock (line :: rest) then line :: rest else afterBody rest

theorem length_afterBody (ls : List Line) : (afterBody ls).length ≤ ls.length := by
  induction ls with
  | nil => simp [afterBody]
  | cons line rest ih =>
    simp only [afterBody]
    split
    · simp
    · simp only [List.length_cons]
      omega

inductive Block where
  /-- a title, its indentation, and the lines under it -/
  | titled (title : Title) (level : Nat) (body : List Line)
  | table (columns : Columns) (rows : List Line)

def blocks : List Line → List Block
  | [] => []
  | line :: rest =>
    match title? (line :: rest) with
    | some title => .titled title (indent line) (body (rest.drop 1)) :: blocks (afterBody (rest.drop 1))
    | none =>
      match columns? line with
      | some columns => .table columns (rest.takeWhile isRow) :: blocks (rest.dropWhile isRow)
      | none => blocks rest
termination_by ls => ls.length
decreasing_by
  · have := length_afterBody (rest.drop 1)
    simp only [List.length_drop] at this
    simp only [List.length_cons]
    omega
  · exact Nat.lt_succ_of_le (List.dropWhile_sublist _).length_le
  · simp

/-! ## Entries under a title -/

/-- the names that a line lists and the type it gives them -/
def listing (line : Line) : List Line × Option Line :=
  match (splitAround [' ', ':', ' '] line).or (splitOnce ':' line) with
  | some (names, typeName) =>
    (splitOn (· == ',') names, if (trim typeName).isEmpty then none else some (trim typeName))
  | none => (splitOn (· == ',') line, none)

/-- the entries of a parameter block; every name of a listing gets its type and its text -/
def titledEntries (level : Nat) (ls : List Line) : List Entry :=
  let groups := Docstring.blocks (fun l => if indent l ≤ level then some (listing l) else none) (ls.filter (!·.isEmpty))
  groups.flatMap fun ((names, typeName), more) =>
    ((names.map bareName).filter isIdentifier).map fun name => ⟨name, typeName, more⟩

/-- what a return block says: its indented lines, or all of them if none is -/
def titledReturns (level : Nat) (ls : List Line) : List Line :=
  let ls := ls.filter (!·.isEmpty)
  let deeper := ls.filter fun l => decide (level < indent l)
  if deeper.isEmpty then ls else deeper

/-! ## Entries of a table -/

def cell (cells : List Line) (position : Nat) : Line :=
  (cells[position]?).getD []

/-- the type cell without backquotes, if it holds anything -/
def typeOf? (columns : Columns) (cells : List Line) : Option Line :=
  (columns.typeName.map fun position => strip '\x60' (cell cells position)).filter (!·.isEmpty)

def rowEntries (columns : Columns) (rows : List Line) : List Entry :=
  let named (cells : List Line) : Option (Line × List Line) :=
    let name := bareName (cell cells columns.name)
    if name.isEmpty then none else some (name, cells)
  (Docstring.blocks named ((rows.filterMap cells?).filter (!isSeparator ·))).filterMap fun ((name, cells), more) =>
    if isIdentifier name then some ⟨name, typeOf? columns cells, (cells :: more).map (cell · columns.description)⟩
    else none

/-! ## Findings -/

def Block.entries : Block → List Entry
  | .titled .params level ls => titledEntries level ls
  | .titled _ _ _ => []
  | .table columns rows => rowEntries columns rows

def Block.returns? : Block → Option (List Line)
  | .titled .returns level ls => some (titledReturns level ls)
  | _ => none

def findings (ls : List Line) : Findings :=
  let all := blocks ls
  { prose := body ls
    entries := all.flatMap Block.entries
    returns := flattenSome (all.filterMap Block.returns?) }

/-- the lines begin with a title or header row that documents something -/
def isMarker (ls : List Line) : Bool :=
  (title? ls).any (· != .other) || (ls.head?.bind columns?).isSome

/-- some line is a title or header row that documents something -/
def detect : List Line → Bool
  | [] => false
  | line :: rest => isMarker (line :: rest) || detect rest

end ToolSchema.Docstring.Table
