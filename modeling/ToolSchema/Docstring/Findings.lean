/-
What a layout finds in the lines, before it becomes a model.

`Findings.toModel?` keeps the entries of known parameters and merges those of one name by first information: the first
type name, and the first text that has any word. `blocks` groups lines under the heads among them.
-/
import ToolSchema.Diagnostic
import ToolSchema.Docstring.Clean
import ToolSchema.Docstring.Model
import ToolSchema.Text.Letter

namespace ToolSchema.Docstring

open Text

/-- one mention of a parameter, with the lines of its text -/
structure Entry where
  name : Line
  typeName : Option Line
  text : List Line

structure Findings where
  /-- the lines before the first marker -/
  prose : List Line
  entries : List Entry
  /-- the lines about the return value, if there is a place for them -/
  returns : Option (List Line)

/-! ## Grouping -/

/-- Every head with the items that follow it, up to the next head. Items before the first head are left out. -/
def blocks {α β : Type} (head? : α → Option β) : List α → List (β × List α)
  | [] => []
  | a :: rest =>
    match head? a with
    | some b => (b, rest.takeWhile fun x => (head? x).isNone) :: blocks head? rest
    | none => blocks head? rest

/-- the lines of all parts, if there is any part -/
def flattenSome (parts : List (List Line)) : Option (List Line) :=
  if parts.isEmpty then none else some parts.flatten

/-! ## Models -/

/-- one entry more; what is known already stays -/
def ParamDoc.merge (p : ParamDoc) (e : Entry) : ParamDoc :=
  ⟨p.typeName.or (e.typeName.map String.ofList), p.description.or ((joinWords e.text).map String.ofList)⟩

/-- add an entry to the parameters; one of an unknown parameter is only reported -/
def addEntry (names : List String) (params : Entries ParamDoc) (e : Entry) : Traced (Entries ParamDoc) :=
  let name := String.ofList e.name
  if names.contains name then pure (params.put name (((params.lookup name).getD ⟨none, none⟩).merge e))
  else do
    Traced.note (.unknownParameter name)
    return params

def addEntries (names : List String) (params : Entries ParamDoc) : List Entry → Traced (Entries ParamDoc)
  | [] => pure params
  | e :: rest => do
    let params ← addEntry names params e
    addEntries names params rest

namespace Findings

/-- neither a parameter nor a place for the return value was found -/
def isEmpty (f : Findings) : Bool :=
  f.entries.isEmpty && f.returns.isNone

def toModel? (style : Style) (names : List String) (f : Findings) : Traced (Option Model) :=
  if f.isEmpty then pure none
  else do
    let params ← addEntries names [] f.entries
    let description := Docstring.prose f.prose
    return some {
      summary := String.ofList (summary (clean description))
      description := String.ofList description
      params := params
      returns := (f.returns.bind joinWords).map String.ofList
      style := some style }

end Findings

end ToolSchema.Docstring
