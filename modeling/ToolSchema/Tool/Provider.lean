/-
Providers: the formats in which vendors take tools.

A provider writes the schema of an envelope and the call arguments that go with a schema. The registry of providers
knows them by the lower case of their names; registering a name again replaces its provider and is reported.
-/
import ToolSchema.Text.Lowercase
import ToolSchema.Tool.Envelope

namespace ToolSchema

structure Provider where
  schema : Envelope → Json
  /-- call arguments that offer a schema to the model -/
  call : Json → Json

namespace Provider

/-- the envelope as it is, with a forced call -/
def openai : Provider where
  schema := Envelope.toJson
  call schema := Envelope.forcedCall schema ((schema.getD "function").getD "name")

/-- name, description and input schema side by side -/
def anthropic : Provider where
  schema e := .object [("name", .string e.name), ("description", .string e.parameters.description),
    ("input_schema", e.parameters.toJson)]
  call schema := .object [("tools", .array [schema])]

end Provider

structure Providers where
  known : Entries Provider

namespace Providers

def empty : Providers := ⟨[]⟩

/-- the providers that need no registration -/
def builtin : Providers := ⟨[("openai", .openai), ("anthropic", .anthropic)]⟩

def register (name : String) (provider : Provider) (ps : Providers) : Traced Providers := do
  let key := Text.lowercase name
  if ps.known.has key then Traced.note (.replacedProvider key)
  return ⟨ps.known.put key provider⟩

def get? (name : String) (ps : Providers) : Option Provider :=
  ps.known.lookup (Text.lowercase name)

def has (name : String) (ps : Providers) : Bool :=
  ps.known.has (Text.lowercase name)

/-- names in lower case, oldest first -/
def names (ps : Providers) : List String :=
  ps.known.keys

end Providers

end ToolSchema
