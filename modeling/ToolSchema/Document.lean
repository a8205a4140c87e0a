/-
Schema documents: the parameters object of a tool.

A document holds its parameters in order. Its properties and the list of required names follow from them: a parameter
that is added again under one name replaces the property where it stands.
-/
import ToolSchema.Descriptor
import ToolSchema.Signature

namespace ToolSchema

/-- a resolved parameter with what is said about it -/
structure ParameterInfo where
  name : String
  descriptor : Descriptor
  description : Option String
  /-- a caller need not supply a value -/
  hasDefault : Bool
  /-- the value that is written as the default -/
  defaultValue : Option Json

namespace ParameterInfo

def isRequired (p : ParameterInfo) : Bool :=
  !p.hasDefault

/-- a member that is left out if there is no value for it -/
def putSome (key : String) (value : Option Json) (node : Entries Json) : Entries Json :=
  match value with
  | some j => node.put key j
  | none => node

/-- the property: the members of the type's schema, the description and the default -/
def property (p : ParameterInfo) : Json :=
  .object (putSome "default" p.defaultValue
    (putSome "description" (p.description.map .string) p.descriptor.schemaMembers))

def toJson (p : ParameterInfo) : Json :=
  .object [("name", .string p.name), ("descriptor", p.descriptor.toJson), ("description", .ofString? p.description),
    ("has_default", .bool p.hasDefault), ("default_value", p.defaultValue.getD .null)]

end ParameterInfo

structure Document where
  description : String
  parameters : List ParameterInfo

namespace Document

def empty (description : String) : Document := ⟨description, []⟩

def add (p : ParameterInfo) (d : Document) : Document :=
  { d with parameters := d.parameters ++ [p] }

/-- properties in the order in which their names were first added -/
def properties (d : Document) : Entries Json :=
  Entries.ofList (d.parameters.map fun p => (p.name, p.property))

/-- the names of the parameters without a default, as often as they were added -/
def required (d : Document) : List String :=
  (d.parameters.filter (·.isRequired)).map ParameterInfo.name

def toJson (d : Document) : Json :=
  .object [("type", .string "object"), ("properties", .object d.properties), ("required", .ofStrings d.required)]

end Document

end ToolSchema
