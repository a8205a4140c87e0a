/-
Diagnostics, and results that carry them.

A diagnostic names a finding and the data that goes with it; its level, wording and fields are functions of it. A
`Traced` result is a value together with the diagnostics issued on the way to it, oldest first. `bind_value` and
`bind_notes` say what sequencing does to either part.
-/
import ToolSchema.Json.Printer

namespace ToolSchema

inductive Level where
  | trace
  | debug
  | warn
  deriving DecidableEq

def Level.name : Level → String
  | .trace => "trace"
  | .debug => "debug"
  | .warn => "warn"

/-- What the library reports without failing. A key that is refused and the style of a documentation text are shown in
debugging notation only, and left out. -/
inductive Diagnostic where
  /-- a name that is not registered -/
  | unresolvedReference (name : String)
  /-- a type with no place in a schema -/
  | noSchemaEquivalent (label : String)
  /-- a type that is already being expanded -/
  | recursionCut (name : String)
  | duplicateField (field : String)
  | keysNotStrings
  | emptyUnion
  | emptyLiteral
  | literalNotScalar (value : Json)
  | replacedType (name : String)
  | schemaNotObject (schema : Json)
  | severalParts
  | unknownSchemaType (kind : String)
  | mixedTuple
  | unknownParameter (parameter : String)
  | conventionSelected
  | noTypeHint (parameter : String)
  | unserializableDefault (parameter error : String)
  | schemaGenerated (function : String) (properties required : Nat)
  | replacedProvider (provider : String)

namespace Diagnostic

def level : Diagnostic → Level
  | conventionSelected => .trace
  | recursionCut _ | replacedType _ | unknownParameter _ | noTypeHint _ | schemaGenerated .. | replacedProvider _ =>
    .debug
  | _ => .warn

def message : Diagnostic → String
  | unresolvedReference _ => "unresolved type reference"
  | noSchemaEquivalent _ => "type has no schema equivalent"
  | recursionCut _ => "recursive type reference cut"
  | duplicateField _ => "duplicate record field overrides earlier one"
  | keysNotStrings => "mapping keys must be strings"
  | emptyUnion => "empty union"
  | emptyLiteral => "literal without values"
  | literalNotScalar _ => "literal values must be scalars"
  | replacedType _ => "replaced registered type"
  | schemaNotObject _ => "schema is not an object"
  | severalParts => "allOf with several parts is not supported"
  | unknownSchemaType _ => "unknown JSON Schema type"
  | mixedTuple => "heterogeneous tuples are not supported"
  | unknownParameter _ => "ignoring docstring entry for unknown parameter"
  | conventionSelected => "docstring convention selected"
  | noTypeHint _ => "parameter has no type hint"
  | unserializableDefault .. => "default value is not serializable"
  | schemaGenerated .. => "schema generated"
  | replacedProvider _ => "replaced schema provider"

/-- names and values of the data, in the order in which they are shown -/
def fields : Diagnostic → List (String × String)
  | unresolvedReference name | recursionCut name | replacedType name => [("type_name", name)]
  | noSchemaEquivalent label => [("type_name", label)]
  | duplicateField field => [("field", field)]
  | literalNotScalar value => [("value", value.compact)]
  | schemaNotObject schema => [("schema", schema.compact)]
  | unknownSchemaType kind => [("kind", kind)]
  | unknownParameter parameter | noTypeHint parameter => [("parameter", parameter)]
  | unserializableDefault parameter error => [("parameter", parameter), ("error", error)]
  | schemaGenerated function properties required =>
    [("function", function), ("properties", toString properties), ("required", toString required)]
  | replacedProvider provider => [("provider", provider)]
  | _ => []

end Diagnostic

/-! ## Results with diagnostics -/

/-- a value and the diagnostics issued on the way to it, oldest first -/
structure Traced (α : Type) where
  value : α
  notes : List Diagnostic

namespace Traced

instance : Monad Traced where
  pure a := ⟨a, []⟩
  bind x f := ⟨(f x.value).value, x.notes ++ (f x.value).notes⟩

/-- issue one diagnostic -/
def note (d : Diagnostic) : Traced Unit := ⟨(), [d]⟩

variable {α β : Type}

@[simp] theorem pure_value (a : α) : (pure a : Traced α).value = a := rfl

@[simp] theorem pure_notes (a : α) : (pure a : Traced α).notes = [] := rfl

@[simp] theorem bind_value (x : Traced α) (f : α → Traced β) : (x >>= f).value = (f x.value).value := rfl

@[simp] theorem bind_notes (x : Traced α) (f : α → Traced β) : (x >>= f).notes = x.notes ++ (f x.value).notes := rfl

@[simp] theorem note_notes (d : Diagnostic) : (note d).notes = [d] := rfl

instance : LawfulMonad Traced :=
  LawfulMonad.mk' Traced
    (fun x => by cases x; simp [Functor.map])
    (fun a f => by simp [bind, pure])
    (fun x f g => by simp [bind])

@[simp] theorem map_value (f : α → β) (x : Traced α) : (f <$> x).value = f x.value := rfl

@[simp] theorem map_notes (f : α → β) (x : Traced α) : (f <$> x).notes = x.notes := by
  simp [Functor.map]

end Traced

end ToolSchema
