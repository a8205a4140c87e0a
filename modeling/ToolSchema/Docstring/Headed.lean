/-
Parameter documentation in sections under headers: `Args:` with lines `name (type): text` below it.

The body of a section is made of the lines that are empty or indented deeper than its header. In a parameter section the
first line sets the indentation of the items; deeper lines, and lines that are no items, continue the item before them.
-/
import ToolSchema.Docstring.Findings

namespace ToolSchema.Docstring.Headed

open Text

/-! ## Sections -/

/-- The header that a line is. On the first line of all, a return header with text after it is prose. -/
def headerAt? (isFirst : Bool) (line : Line) : Option (Header × Line) :=
  (Header.ofLine? line).filter fun (h, inline) => !(isFirst && h == .returns && !inline.isEmpty)

/-- a line that belongs to the body under a header of this indentation -/
def isBody (level : Nat) (line : Line) : Bool :=
  line.isEmpty || level < indent line

/-- a header, the text after its colon, and its body -/
structure Section where
  header : Header
  inline : Line
  body : List Line

def sections (isFirst : Bool) : List Line → List Section
  | [] => []
  | line :: rest =>
    match headerAt? isFirst line with
    | none => sections false rest
    | some (header, inline) =>
      ⟨header, inline, rest.takeWhile (isBody (indent line))⟩ :: sections false (rest.dropWhile (isBody (indent line)))
termination_by ls => ls.length
decreasing_by
  · simp
  · exact Nat.lt_succ_of_le (List.dropWhile_sublist _).length_le

/-- the lines before the first header -/
def proseBefore (isFirst : Bool) : List Line → List Line
  | [] => []
  | line :: rest => if (headerAt? isFirst line).isSome then [] else line :: proseBefore false rest

/-! ## Items -/

/-- an item: name, type in parentheses, and the text after the colon -/
def item? (line : Line) : Option Entry := do
  let (head, text) ← splitOnce ':' (trim line)
  let head := trim head
  let (name, typeName) ←
    match splitOnce '(' head with
    | none => some (head, none)
    | some (name, rest) =>
      if rest.getLast? = some ')' then
        let typeName := trim rest.dropLast
        some (name, if typeName.isEmpty then none else some typeName)
      else none
  let name := bareName name
  if isIdentifier name then some ⟨name, typeName, [trim text]⟩ else none

/-- the entries of a parameter section -/
def entries (body : List Line) : List Entry :=
  match body.filter (!·.isEmpty) with
  | [] => []
  | first :: rest =>
    let level := indent first
    (blocks (fun l => if indent l ≤ level then item? l else none) (first :: rest)).map fun (e, more) =>
      { e with text := e.text ++ more }

/-- what a section says about the return value -/
def returnText? (s : Section) : Option (List Line) :=
  if s.header = .returns then some ((if s.inline.isEmpty then [] else [s.inline]) ++ s.body) else none

def findings (ls : List Line) : Findings :=
  let all := sections true ls
  { prose := proseBefore true ls
    entries := (all.filter (·.header == .params)).flatMap fun s => entries s.body
    returns := flattenSome (all.filterMap returnText?) }

/-- headers of parameters or of the return value -/
def isMarker (h : Header × Line) : Bool :=
  h.1 != .other

/-- some line is a header that documents something -/
def detect : List Line → Bool
  | [] => false
  | first :: rest => (headerAt? true first).any isMarker || rest.any fun l => (headerAt? false l).any isMarker

end ToolSchema.Docstring.Headed
