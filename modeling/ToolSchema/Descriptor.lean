/-
Descriptors: resolved types, each of which is exactly one JSON Schema node.

`toJson` writes the node; `schemaMembers` gives its members, to which a description and a default may be added. `same`
is equality up to the order of an object's properties; `ofVariants` is the union of several descriptors in normal form.
-/
import ToolSchema.Json.Basic

namespace ToolSchema

inductive Kind where
  | string
  | integer
  | number
  | boolean
  | null
  deriving DecidableEq

/-- the value of the keyword `type` -/
def Kind.name : Kind → String
  | .string => "string"
  | .integer => "integer"
  | .number => "number"
  | .boolean => "boolean"
  | .null => "null"

/-- what holds for keys that are not declared -/
inductive Additional (α : Type) where
  | unconstrained
  | forbidden
  /-- their values are of this type -/
  | values (type : α)

/-- properties in order of declaration, and the names of those that must be present -/
structure Shape (α : Type) where
  properties : List (String × α)
  required : List String
  additional : Additional α

inductive Descriptor where
  | primitive (kind : Kind)
  | array (item : Descriptor)
  | object (shape : Shape Descriptor)
  | enum (values : List Json)
  | union (variants : List Descriptor)
  /-- accepts anything -/
  | unknown

instance : Inhabited Descriptor := ⟨.unknown⟩

namespace Descriptor

def isUnknown : Descriptor → Bool
  | .unknown => true
  | _ => false

/-! ## The schema node -/

/-- the members that declare properties; an object without any leaves out both -/
def declared (properties : List (String × Json)) (required : List String) : List (String × Json) :=
  match properties with
  | [] => []
  | _ :: _ => [("properties", .object properties), ("required", .ofStrings required)]

mutual

def toJson : Descriptor → Json
  | .primitive kind => .object [("type", .string kind.name)]
  | .array item => .object [("type", .string "array"), ("items", toJson item)]
  | .object ⟨properties, required, additional⟩ =>
    .object (("type", .string "object") ::
      declared (propertiesToJson properties) required ++ additionalToJson additional)
  | .enum values => .object [("enum", .array values)]
  | .union variants => .object [("anyOf", .array (variantsToJson variants))]
  | .unknown => .object []

def variantsToJson : List Descriptor → List Json
  | [] => []
  | d :: rest => toJson d :: variantsToJson rest

def propertiesToJson : List (String × Descriptor) → List (String × Json)
  | [] => []
  | (name, d) :: rest => (name, toJson d) :: propertiesToJson rest

def additionalToJson : Additional Descriptor → List (String × Json)
  | .unconstrained => []
  | .forbidden => [("additionalProperties", .bool false)]
  | .values type => [("additionalProperties", toJson type)]

end

/-- the members of the node -/
def schemaMembers (d : Descriptor) : List (String × Json) :=
  (d.toJson.object?).getD []

/-! ## Equality -/

mutual

/-- equality up to the order of properties, where enumerated values are compared as JSON values -/
def same : Descriptor → Descriptor → Bool
  | .primitive a, .primitive b => a == b
  | .array a, .array b => same a b
  | .object ⟨properties, required, additional⟩, .object s =>
    properties.length == s.properties.length && sameProperties properties s.properties && required == s.required &&
      sameAdditional additional s.additional
  | .enum as, .enum bs => Json.sameItems as bs
  | .union as, .union bs => sameVariants as bs
  | .unknown, .unknown => true
  | _, _ => false
termination_by structural a => a

def sameVariants : List Descriptor → List Descriptor → Bool
  | [], [] => true
  | a :: as, b :: bs => same a b && sameVariants as bs
  | _, _ => false
termination_by structural a => a

/-- every property of the first list has a counterpart under its name in the second -/
def sameProperties : List (String × Descriptor) → List (String × Descriptor) → Bool
  | [], _ => true
  | (name, a) :: as, bs =>
    (match bs.lookup name with
      | some b => same a b
      | none => false) && sameProperties as bs
termination_by structural a => a

def sameAdditional : Additional Descriptor → Additional Descriptor → Bool
  | .unconstrained, .unconstrained => true
  | .forbidden, .forbidden => true
  | .values a, .values b => same a b
  | _, _ => false
termination_by structural a => a

end

/-! ## Unions -/

/-- add a variant unless it is there already -/
def addVariant (variants : List Descriptor) (d : Descriptor) : List Descriptor :=
  if variants.any (·.same d) then variants else variants ++ [d]

/-- what a member contributes to a union: the variants of a union, or itself -/
def variants : Descriptor → List Descriptor
  | .union vs => vs
  | d => [d]

/-- The union of several types: nested unions are spliced in, repeats are left out, an unknown member makes the whole
unknown, and a single variant stands for itself. -/
def ofVariants (members : List Descriptor) : Descriptor :=
  let distinct := (members.flatMap variants).foldl addVariant []
  if distinct.any isUnknown then .unknown
  else
    match distinct with
    | [d] => d
    | _ => .union distinct

end Descriptor

/-! ## Objects -/

namespace Shape

/-- no properties, and nothing said about others -/
def empty : Shape Descriptor := ⟨[], [], .unconstrained⟩

/-- an object to which properties are declared one by one -/
def opening (closed : Bool) : Shape Descriptor :=
  { empty with additional := if closed then .forbidden else .unconstrained }

def declares (s : Shape Descriptor) (name : String) : Bool :=
  Entries.has name s.properties

/-- Declare a property. A second declaration replaces the type where the first one stands, and takes back that the name
is required; a required one is then listed last. -/
def declare (s : Shape Descriptor) (name : String) (type : Descriptor) (required : Bool) : Shape Descriptor :=
  let before := if s.declares name then s.required.filter (· != name) else s.required
  { s with
    properties := Entries.put name type s.properties
    required := if required then before ++ [name] else before }

end Shape

end ToolSchema
