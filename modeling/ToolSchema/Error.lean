/-
Why no schema can be generated.

Names and repeats are refused always, everything else only by an option. `message` is the text for people.
-/
namespace ToolSchema

inductive SchemaError where
  /-- the function has no name -/
  | emptyName
  | invalidName (function : String)
  | invalidParameter (parameter function : String)
  | duplicateParameter (parameter : String)
  | noDocstring (function : String)
  | noShortDescription (function : String)
  /-- parameters that the documentation does not mention -/
  | notDocumented (parameters : List String)
  /-- parameters that are mentioned without any text -/
  | missingDescription (parameters : List String)
  /-- a parameter whose type contains a container without element type -/
  | bareGeneric (parameter : String)
  deriving DecidableEq

namespace SchemaError

/-- a name in backquotes -/
def quoted (name : String) : String := "\x60" ++ name ++ "\x60"

def message : SchemaError → String
  | emptyName => "Inspection error: function name is empty"
  | invalidName function => "Inspection error: " ++ quoted function ++ " is not a valid function name"
  | invalidParameter parameter function =>
    "Inspection error: " ++ quoted parameter ++ " is not a valid parameter name of " ++ quoted function
  | duplicateParameter parameter => "Invalid signature: duplicate parameter name " ++ quoted parameter
  | noDocstring function => "Function " ++ quoted function ++ " must have a docstring"
  | noShortDescription function => "Function " ++ quoted function ++ " must have a short description in its docstring"
  | notDocumented parameters =>
    "The following parameters are not documented in the docstring: " ++ ", ".intercalate parameters
  | missingDescription parameters =>
    "The following parameters are missing descriptions in the docstring: " ++ ", ".intercalate parameters
  | bareGeneric parameter => "Parameter " ++ quoted parameter ++ " has a bare generic type"

end SchemaError

end ToolSchema
