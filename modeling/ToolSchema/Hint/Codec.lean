/-
The JSON form of hints.

A hint without parts is written as its tag, any other as an object whose one key is the tag. Reading accepts what
writing produces, and besides: a tag without parts as an object with null, a mapping or a record in which a part or
the name is missing, and records and fields whose members are given by position.
-/
import ToolSchema.Hint.Basic

namespace ToolSchema

/-- a value under its tag -/
def Json.tagged (tag : String) (body : Json) : Json :=
  .object [(tag, body)]

namespace Hint

/-! ## Writing -/

def recordJson (name : Option String) (fields : List Json) (closed : Bool) : Json :=
  .object [("name", .ofString? name), ("fields", .array fields), ("closed", .bool closed)]

mutual

def toJson : Hint → Json
  | .null => .string "null"
  | .string => .string "string"
  | .integer => .string "integer"
  | .number => .string "number"
  | .boolean => .string "boolean"
  | .any => .string "any"
  | .array item => .tagged "array" (optionToJson item)
  | .map key value => .tagged "map" (.object [("key", optionToJson key), ("value", optionToJson value)])
  | .optional inner => .tagged "optional" (toJson inner)
  | .union members => .tagged "union" (.array (allToJson members))
  | .literal values => .tagged "literal" (.array values)
  | .record ⟨name, fields, closed⟩ => .tagged "record" (recordJson name (fieldsToJson fields) closed)
  | .named name => .tagged "named" (.string name)
  | .unsupported label => .tagged "opaque" (.string label)

def optionToJson : Option Hint → Json
  | none => .null
  | some h => toJson h

def allToJson : List Hint → List Json
  | [] => []
  | h :: rest => toJson h :: allToJson rest

def fieldsToJson : List (Field Hint) → List Json
  | [] => []
  | f :: rest =>
    .object [("name", .string f.name), ("hint", toJson f.hint), ("required", .bool f.required)] :: fieldsToJson rest

end

/-! ## Reading -/

/-- the tags of the hints without parts -/
def scalar? : String → Option Hint
  | "null" => some .null
  | "string" => some .string
  | "integer" => some .integer
  | "number" => some .number
  | "boolean" => some .boolean
  | "any" => some .any
  | _ => none

/-- a string that may be missing or null -/
def name? : Option Json → Option (Option String)
  | none => some none
  | some .null => some none
  | some (.string s) => some (some s)
  | some _ => none

mutual

def ofJson? : Json → Option Hint
  | .string tag => scalar? tag
  | .object [(tag, body)] => tagged? tag body
  | _ => none
termination_by j => (sizeOf j, 0)

def tagged? (tag : String) (body : Json) : Option Hint :=
  match tag, body with
  | "array", body => (orNull? body).map .array
  | "map", .object parts => mapping? parts
  | "optional", body => (ofJson? body).map .optional
  | "union", .array items => (all? items).map .union
  | "literal", .array values => some (.literal values)
  | "record", body => (record? body).map .record
  | "named", .string name => some (.named name)
  | "opaque", .string label => some (.unsupported label)
  | tag, .null => scalar? tag
  | _, _ => none
termination_by (sizeOf body, 4)

/-- a hint, or null for none -/
def orNull? : Json → Option (Option Hint)
  | .null => some none
  | j => (ofJson? j).map some
termination_by j => (sizeOf j, 1)

/-- a mapping from its parts, which are given by name only -/
def mapping? (parts : List (String × Json)) : Option Hint := do
  let key ← part? (parts.lookup "key")
  let value ← part? (parts.lookup "value")
  return .map key value
termination_by (1 + sizeOf parts, 0)
decreasing_by
  · exact Prod.Lex.left _ _ (Json.sizeOf_lookup_lt "key" parts)
  · exact Prod.Lex.left _ _ (Json.sizeOf_lookup_lt "value" parts)

/-- a part of a mapping, which may be missing -/
def part? : Option Json → Option (Option Hint)
  | none => some none
  | some j => orNull? j
termination_by j => (sizeOf j, 2)
decreasing_by
  exact Prod.Lex.left _ _ (by simp)

def all? : List Json → Option (List Hint)
  | [] => some []
  | j :: rest => do
    let h ← ofJson? j
    let hs ← all? rest
    return h :: hs
termination_by js => (sizeOf js, 0)

def record? (j : Json) : Option (Record Hint) :=
  match _h : j.members? ["name", "fields", "closed"] with
  | some [name, some (.array items), some (.bool closed)] => do
    let name ← name? name
    let fields ← fields? items
    return ⟨name, fields, closed⟩
  | _ => none
termination_by (sizeOf j, 2)
decreasing_by
  have := Json.sizeOf_lt_of_members? _h (show some (Json.array items) ∈ _ by simp)
  simp only [Json.array.sizeOf_spec] at this
  exact Prod.Lex.left _ _ (by omega)

def fields? : List Json → Option (List (Field Hint))
  | [] => some []
  | j :: rest => do
    let f ← field? j
    let fs ← fields? rest
    return f :: fs
termination_by js => (sizeOf js, 0)

def field? (j : Json) : Option (Field Hint) :=
  match _h : j.members? ["name", "hint", "required"] with
  | some [some (.string name), some hint, some (.bool required)] => do
    let hint ← ofJson? hint
    return ⟨name, hint, required⟩
  | _ => none
termination_by (sizeOf j, 1)
decreasing_by
  exact Prod.Lex.left _ _ (Json.sizeOf_lt_of_members? _h (by simp))

end

end Hint

/-- a record in the form that it has inside a hint, without the tag -/
def Record.toJson (r : Record Hint) : Json :=
  Hint.recordJson r.name (Hint.fieldsToJson r.fields) r.closed

end ToolSchema
