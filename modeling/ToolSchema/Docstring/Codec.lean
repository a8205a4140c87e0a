/-
Reading models from JSON.

Summary, description and parameters must be there; every other member may be missing or null.
-/
import ToolSchema.Docstring.Model
import ToolSchema.Json.Basic

namespace ToolSchema

namespace Docstring

/-- a member that may be missing or null -/
def nullable? {α : Type} (read : Json → Option α) : Option Json → Option (Option α)
  | none => some none
  | some .null => some none
  | some j => (read j).map some

def ParamDoc.ofJson? (j : Json) : Option ParamDoc := do
  match ← j.members? ["type_name", "description"] with
  | [typeName, description] => return ⟨← nullable? Json.string? typeName, ← nullable? Json.string? description⟩
  | _ => none

def Style.ofJson? (j : Json) : Option Style :=
  j.tag?.bind Style.ofName?

namespace Model

def params? (members : List (String × Json)) : Option (Entries ParamDoc) :=
  members.mapM fun (name, j) => (ParamDoc.ofJson? j).map fun p => (name, p)

def ofJson? (j : Json) : Option Model := do
  match ← j.members? ["summary", "description", "params", "returns", "style"] with
  | [some (.string summary), some (.string description), some (.object params), returns, style] =>
    return ⟨summary, description, ← params? params, ← nullable? Json.string? returns, ← nullable? Style.ofJson? style⟩
  | _ => none

end Model

end Docstring

end ToolSchema
