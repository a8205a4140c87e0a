/-
Signatures: the name, the documentation and the parameters of a callable.

A parameter is required exactly if it has no default; the default's value need not be known. `validate` refuses names
that are no identifiers and parameters of one name.
-/
import ToolSchema.Diagnostic
import ToolSchema.Error
import ToolSchema.Hint.Basic
import ToolSchema.Text.Basic
import ToolSchema.Text.Letter

namespace ToolSchema

/-! ## Parameters -/

structure Parameter where
  name : String
  /-- nothing for a parameter without annotation -/
  hint : Option Hint
  /-- a caller need not supply a value -/
  hasDefault : Bool
  /-- the value of the default, if it is known and can be written -/
  defaultValue : Option Json

namespace Parameter

def isRequired (p : Parameter) : Bool :=
  !p.hasDefault

/-- a required parameter -/
def required (name : String) (hint : Option Hint) : Parameter := ⟨name, hint, false, none⟩

def withHint (hint : Hint) (p : Parameter) : Parameter :=
  { p with hint := some hint }

def withDefault (value : Json) (p : Parameter) : Parameter :=
  { p with hasDefault := true, defaultValue := some value }

/-- a default that cannot be written as JSON makes the parameter optional all the same -/
def withUnserializableDefault (error : String) (p : Parameter) : Traced Parameter := do
  Traced.note (.unserializableDefault p.name error)
  return { p with hasDefault := true, defaultValue := none }

/-- there is a default, whose value stays as it was known -/
def withSomeDefault (p : Parameter) : Parameter :=
  { p with hasDefault := true }

end Parameter

/-! ## Signatures -/

structure Signature where
  name : String
  docstring : Option String
  parameters : List Parameter

/-- the first name that occurs before -/
def firstRepeat? (before : List String) : List String → Option String
  | [] => none
  | name :: rest => if name ∈ before then some name else firstRepeat? (name :: before) rest

def checkDistinct (parameters : List Parameter) : Except SchemaError Unit :=
  match firstRepeat? [] (parameters.map Parameter.name) with
  | some name => .error (.duplicateParameter name)
  | none => .ok ()

namespace Signature

def parameterNames (s : Signature) : List String :=
  s.parameters.map Parameter.name

/-- the documentation, unless it is blank -/
def documentation? (s : Signature) : Option String :=
  s.docstring.filter fun text => !Text.allBlank text.toList

def validate (s : Signature) : Except SchemaError Unit :=
  if s.name.isEmpty then .error .emptyName
  else if !Text.isIdentifier s.name.toList then .error (.invalidName s.name)
  else
    match s.parameterNames.find? fun name => !Text.isIdentifier name.toList with
    | some name => .error (.invalidParameter name s.name)
    | none => checkDistinct s.parameters

end Signature

end ToolSchema
