/-
Extraction of a model from documentation text.

Each layout looks for its markers first, and only then parses. The layouts are tried in the order of `Style.all`; the
first that finds anything decides. Text without any marker is summary and prose only.
-/
import ToolSchema.Docstring.Headed
import ToolSchema.Docstring.Table
import ToolSchema.Docstring.Tag

namespace ToolSchema.Docstring

/-! ## Layouts -/

/-- a marker of the layout occurs in the lines -/
def Style.detect : Style → List Line → Bool
  | .tag => Tag.detect
  | .table => Table.detect
  | .headed => Headed.detect

def Style.findings : Style → List Line → Findings
  | .tag => Tag.findings
  | .table => Table.findings
  | .headed => Headed.findings

/-- the model of a layout; nothing if it finds neither parameters nor a return value -/
def Style.parse? (style : Style) (ls : List Line) (names : List String) : Traced (Option Model) :=
  (style.findings ls).toModel? style names

/-! ## Selection -/

/-- the model of the first layout that has one -/
def select? (ls : List Line) (names : List String) : List Style → Traced (Option Model)
  | [] => pure none
  | style :: rest =>
    if style.detect ls then do
      match ← style.parse? ls names with
      | some model =>
        Traced.note .conventionSelected
        return some model
      | none => select? ls names rest
    else select? ls names rest

/-- text in which no layout finds anything -/
def plain (ls : List Line) : Model :=
  { Model.empty with
    summary := String.ofList (summary ls)
    description := String.ofList (prose ls) }

/-- the model of a text, for a callable with these parameter names -/
def extract (raw : String) (names : List String) : Traced Model :=
  let ls := clean raw.toList
  if ls.isEmpty then pure .empty
  else do
    match ← select? ls names Style.all with
    | some model => return model
    | none => return plain ls

end ToolSchema.Docstring
