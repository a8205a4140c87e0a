/-
Documents with definitions in the places of the references to them.

`replace` puts a schema in the place of each node that is a reference, wherever the keywords of a node have schemas
(`Position`): in a `const`, say, a reference is data. `inline` puts in place what the references lead to, with the
references in it followed as well, up to some depth.

What a node says is said of the schemas in it, so it stays the same with others in their places (`of_replaceMembers`),
and the node has the parts that it had, each replaced (`parts_replaceMembers`, `hintOf_replaceMembers`). There is one
condition. A node says something about all items, or about all values, only by a schema that is an object or true
(`describes`), and what is put in place of it must be so, too.
-/
import ToolSchema.Proofs.Hint.Parts

namespace ToolSchema

namespace Schema

open Hint

/-! ## Replacement -/

/-- what the operand of a keyword is made of -/
inductive Position where
  | schema
  /-- a list of schemas -/
  | schemas
  /-- schemas under names -/
  | named
  | data

/-- where the keywords that are read have their schemas -/
def Position.of : String → Position
  | "items" => .schema
  | "additionalProperties" => .schema
  | "anyOf" => .schemas
  | "oneOf" => .schemas
  | "allOf" => .schemas
  | "prefixItems" => .schemas
  | "properties" => .named
  | "$defs" => .named
  | "definitions" => .named
  | _ => .data

/-- what a node refers to, if it is a reference -/
def reference? (node : List (String × Json)) : Option String :=
  (node.lookup "$ref").bind Json.string?

mutual

/-- the operand with `f` applied to each reference that is a node in it; a reference that `f` knows nothing for stays -/
def replaceAt (f : String → Option Json) : Position → Json → Json
  | .schema, .object node =>
    match reference? node with
    | some path => (f path).getD (.object node)
    | none => .object (replaceMembers f node)
  | .schemas, .array schemas => .array (replaceItems f schemas)
  | .named, .object schemas => .object (replaceValues f schemas)
  | _, operand => operand

def replaceItems (f : String → Option Json) : List Json → List Json
  | [] => []
  | schema :: rest => replaceAt f .schema schema :: replaceItems f rest

def replaceValues (f : String → Option Json) : List (String × Json) → List (String × Json)
  | [] => []
  | (name, schema) :: rest => (name, replaceAt f .schema schema) :: replaceValues f rest

def replaceMembers (f : String → Option Json) : List (String × Json) → List (String × Json)
  | [] => []
  | (key, operand) :: rest => (key, replaceAt f (.of key) operand) :: replaceMembers f rest

end

/-- the schema with others in the places of its references -/
def replace (f : String → Option Json) : Json → Json :=
  replaceAt f .schema

/-- what a reference leads to, with the references in it followed up to the depth -/
def follow (root : Json) : Nat → String → Option Json
  | 0, _ => none
  | depth + 1, path => (target? root path).map (replace (follow root depth))

/-- the schema with definitions of the document in the places of the references to them, up to the depth -/
def inline (root : Json) (depth : Nat) : Json → Json :=
  replace (follow root depth)

variable {root definition : Json} {f : String → Option Json} {node : List (String × Json)} {key path : String}

theorem replaceItems_eq_map (schemas : List Json) : replaceItems f schemas = schemas.map (replace f) := by
  induction schemas with
  | nil => rfl
  | cons schema rest ih => rw [replaceItems, ih, List.map_cons, replace]

theorem replaceValues_eq_map (schemas : List (String × Json)) :
    replaceValues f schemas = schemas.map fun p => (p.1, replace f p.2) := by
  induction schemas with
  | nil => rfl
  | cons p rest ih => rw [replaceValues, ih, List.map_cons, replace]

theorem replace_of_reference? (hpath : reference? node = some path) (hf : f path = some definition) :
    replace f (.object node) = definition := by
  simp only [replace, replaceAt, hpath, hf, Option.getD_some]

theorem replace_object (hnode : reference? node = none) :
    replace f (.object node) = .object (replaceMembers f node) := by
  simp only [replace, replaceAt, hnode]

theorem inline_reference {depth : Nat} (hpath : reference? node = some path)
    (htarget : target? root path = some definition) :
    inline root (depth + 1) (.object node) = inline root depth definition := by
  apply replace_of_reference? hpath
  rw [follow, htarget, Option.map_some, inline]

/-! ## Keywords of a node with other schemas in it -/

theorem lookup_replaceMembers (key : String) :
    (replaceMembers f node).lookup key = (node.lookup key).map (replaceAt f (.of key)) := by
  induction node with
  | nil => rfl
  | cons m rest ih =>
    obtain ⟨k, operand⟩ := m
    rw [replaceMembers, Entries.lookup_cons_if, Entries.lookup_cons_if, ih]
    split
    · next hkey => rw [hkey, Option.map_some]
    · rfl

theorem replaceAt_data (operand : Json) : replaceAt f .data operand = operand := by
  cases operand <;> rfl

theorem lookup_replaceMembers_data (hkey : Position.of key = .data) :
    (replaceMembers f node).lookup key = node.lookup key := by
  have hid : replaceAt f .data = id := funext replaceAt_data
  rw [lookup_replaceMembers, hkey, hid, Option.map_id_fun, id_eq]

theorem has_replaceMembers (key : String) : Entries.has key (replaceMembers f node) = Entries.has key node := by
  rw [Entries.has, Entries.has, lookup_replaceMembers, Option.isSome_map]

theorem array?_replaceAt (operand : Json) :
    (replaceAt f .schemas operand).array? = operand.array?.map (List.map (replace f)) := by
  cases operand with
  | array schemas => exact congrArg some (replaceItems_eq_map schemas)
  | _ => rfl

theorem object?_replaceAt (operand : Json) :
    (replaceAt f .named operand).object? = operand.object?.map (List.map fun p => (p.1, replace f p.2)) := by
  cases operand with
  | object schemas => exact congrArg some (replaceValues_eq_map schemas)
  | _ => rfl

theorem reference?_replaceMembers (f : String → Option Json) : reference? (replaceMembers f node) = reference? node := by
  rw [reference?, reference?, lookup_replaceMembers_data rfl]

theorem title_replaceMembers (f : String → Option Json) :
    (replaceMembers f node).lookup "title" = node.lookup "title" :=
  lookup_replaceMembers_data rfl

theorem requiredNames_replaceMembers (f : String → Option Json) :
    requiredNames (replaceMembers f node) = requiredNames node := by
  rw [requiredNames, requiredNames, lookup_replaceMembers_data rfl]

theorem tupleItems?_replaceMembers (f : String → Option Json) :
    tupleItems? (replaceMembers f node) = (tupleItems? node).map (List.map (replace f)) := by
  rw [tupleItems?, tupleItems?, lookup_replaceMembers, Option.map_bind, Option.bind_map]
  exact Option.bind_congr fun operand _ => array?_replaceAt operand

theorem properties?_replaceMembers (f : String → Option Json) :
    properties? (replaceMembers f node) = (properties? node).map (List.map fun p => (p.1, replace f p.2)) := by
  rw [properties?, properties?, lookup_replaceMembers, Option.map_bind, Option.bind_map]
  exact Option.bind_congr fun operand _ => object?_replaceAt operand

end Schema

namespace Hint

open Schema

variable {f : String → Option Json} {node : List (String × Json)} {path : String}

/-! ## What a node says with other schemas in it -/

namespace Node

/-- what is said, about other schemas -/
def map (f : Json → Json) : Node → Node
  | .alternatives variants => .alternatives (variants.map f)
  | .part schema => .part (f schema)
  | n => n

theorem ofReference?_eq_map (node : List (String × Json)) : ofReference? node = (reference? node).map .reference := by
  rw [ofReference?, reference?, Option.map_bind]
  rfl

theorem ofReference?_replaceMembers (f : String → Option Json) :
    ofReference? (replaceMembers f node) = (ofReference? node).map (map (replace f)) := by
  rw [ofReference?_eq_map, ofReference?_eq_map, reference?_replaceMembers, Option.map_map]
  rfl

theorem ofConst?_replaceMembers (f : String → Option Json) :
    ofConst? (replaceMembers f node) = (ofConst? node).map (map (replace f)) := by
  rw [ofConst?, ofConst?, lookup_replaceMembers_data rfl, Option.map_map]
  rfl

theorem ofEnum?_replaceMembers (f : String → Option Json) :
    ofEnum? (replaceMembers f node) = (ofEnum? node).map (map (replace f)) := by
  rw [ofEnum?, ofEnum?, lookup_replaceMembers_data rfl, Option.map_bind]
  refine Option.bind_congr fun operand _ => ?_
  rw [Function.comp_apply, Option.map_map]
  rfl

theorem ofAlternatives?_replaceMembers (f : String → Option Json) :
    ofAlternatives? (replaceMembers f node) = (ofAlternatives? node).map (map (replace f)) := by
  have hanyOf : Position.of "anyOf" = .schemas := rfl
  have honeOf : Position.of "oneOf" = .schemas := rfl
  rw [ofAlternatives?, ofAlternatives?, lookup_replaceMembers, lookup_replaceMembers, hanyOf, honeOf, ← Option.map_or,
    Option.bind_map, Option.map_bind]
  refine Option.bind_congr fun operand _ => ?_
  rw [Function.comp_apply, Function.comp_apply, array?_replaceAt, Option.map_map, Option.map_map]
  rfl

theorem ofParts?_replaceMembers (f : String → Option Json) :
    ofParts? (replaceMembers f node) = (ofParts? node).map (map (replace f)) := by
  have hallOf : Position.of "allOf" = .schemas := rfl
  rw [ofParts?, ofParts?, lookup_replaceMembers, hallOf, Option.bind_map, Option.map_bind]
  refine Option.bind_congr fun operand _ => ?_
  rw [Function.comp_apply, Function.comp_apply, array?_replaceAt, Option.map_map, Option.map_map]
  refine Option.map_congr fun schemas _ => ?_
  match schemas with
  | [] => rfl
  | [_] => rfl
  | _ :: _ :: _ => rfl

theorem ofType?_replaceMembers (f : String → Option Json) :
    ofType? (replaceMembers f node) = (ofType? node).map (map (replace f)) := by
  rw [ofType?, ofType?, lookup_replaceMembers_data rfl, Option.map_bind]
  refine Option.bind_congr fun operand _ => ?_
  cases operand <;> rfl

theorem ofContents_replaceMembers (f : String → Option Json) :
    ofContents (replaceMembers f node) = (ofContents node).map (replace f) := by
  rw [ofContents, ofContents, has_replaceMembers, has_replaceMembers]
  split
  · rfl
  · split <;> rfl

theorem of_replaceMembers (f : String → Option Json) : of (replaceMembers f node) = (of node).map (replace f) := by
  have hkeywords : ofKeywords? (replaceMembers f node) = (ofKeywords? node).map (map (replace f)) := by
    simp only [ofKeywords?, ofReference?_replaceMembers, ofConst?_replaceMembers, ofEnum?_replaceMembers,
      ofAlternatives?_replaceMembers, ofParts?_replaceMembers, ofType?_replaceMembers, Option.map_or]
  rw [of, of, hkeywords, ofContents_replaceMembers]
  cases ofKeywords? node <;> rfl

theorem of_eq_reference_iff : of node = .reference path ↔ reference? node = some path := by
  constructor
  · intro hof
    cases says_of_eq hof nofun nofun with
    | ref hlookup => rw [reference?, hlookup]; rfl
  · intro hpath
    rw [of, ofKeywords?, ofReference?_eq_map, hpath]
    rfl

end Node

/-! ## Parts of a node with other schemas in it -/

/-- the schema says something about the items or values that it is said about -/
def describes : Json → Bool
  | .object _ => true
  | .bool b => b
  | _ => false

theorem items?_eq_filter (node : List (String × Json)) : items? node = (node.lookup "items").filter describes :=
  rfl

theorem values?_eq_filter (node : List (String × Json)) :
    values? node = (node.lookup "additionalProperties").filter describes :=
  rfl

/-- the schemas of all items and of all values that a node is read by -/
def contents (node : List (String × Json)) : List Json :=
  match Node.of node with
  | .typed kinds =>
    (if "array" ∈ kinds then (items? node).toList else []) ++ (if "object" ∈ kinds then (values? node).toList else [])
  | _ => []

theorem replace_of_not_describes {schema : Json} (h : describes schema = false) : replace f schema = schema := by
  cases schema with
  | object node => cases h
  | _ => rfl

/-- it counts only what is put in place of a schema that counts -/
theorem filter_describes_map {operand : Option Json}
    (h : ∀ schema, operand.filter describes = some schema → describes (replace f schema) = true) :
    (operand.map (replace f)).filter describes = (operand.filter describes).map (replace f) := by
  cases operand with
  | none => rfl
  | some schema =>
    cases hschema : describes schema with
    | true =>
      rw [Option.filter_some_pos hschema] at h ⊢
      rw [Option.map_some, Option.filter_some_pos (h schema rfl)]
    | false =>
      rw [Option.map_some, replace_of_not_describes hschema, Option.filter_some_neg hschema]
      rfl

theorem items?_replaceMembers (h : ∀ schema, items? node = some schema → describes (replace f schema) = true) :
    items? (replaceMembers f node) = (items? node).map (replace f) := by
  rw [items?_eq_filter] at h ⊢
  rw [items?_eq_filter, lookup_replaceMembers]
  exact filter_describes_map h

section

variable (hvalues : ∀ schema, values? node = some schema → describes (replace f schema) = true)

include hvalues

theorem values?_replaceMembers : values? (replaceMembers f node) = (values? node).map (replace f) := by
  rw [values?_eq_filter] at hvalues ⊢
  rw [values?_eq_filter, lookup_replaceMembers]
  exact filter_describes_map hvalues

theorem isClosed_replaceMembers : isClosed (replaceMembers f node) = isClosed node := by
  have hopen : ∀ schema, describes schema = true → schema ≠ .bool false := by
    rintro _ hschema rfl
    cases hschema
  have hposition : Position.of "additionalProperties" = .schema := rfl
  rw [isClosed, isClosed, lookup_replaceMembers, hposition]
  rw [values?_eq_filter] at hvalues
  cases hlookup : node.lookup "additionalProperties" with
  | none => rfl
  | some schema =>
    rw [hlookup] at hvalues
    rw [Option.map_some, ← replace]
    cases hschema : describes schema with
    | true =>
      have hreplaced := hopen _ (hvalues schema (Option.filter_some_pos hschema))
      have hschema := hopen _ hschema
      split
      · next h => exact absurd (Option.some.inj h) hreplaced
      · split
        · next h => exact absurd (Option.some.inj h) hschema
        · rfl
    | false => rw [replace_of_not_describes hschema]

end

section

variable {kind : String} {read : Json → Hint}

theorem itemParts_replaceMembers (h : ∀ schema, items? node = some schema → describes (replace f schema) = true) :
    itemParts (replaceMembers f node) = (itemParts node).map (replace f) := by
  rw [itemParts, itemParts, items?_replaceMembers h, tupleItems?_replaceMembers]
  cases items? node with
  | some schema => rfl
  | none => cases tupleItems? node <;> rfl

theorem memberParts_replaceMembers (h : ∀ schema, values? node = some schema → describes (replace f schema) = true) :
    memberParts (replaceMembers f node) = (memberParts node).map (replace f) := by
  rw [memberParts, memberParts, values?_replaceMembers h, properties?_replaceMembers]
  cases properties? node with
  | some properties =>
    dsimp only [Option.map_some]
    rw [List.map_map, List.map_map]
    rfl
  | none => cases values? node <;> rfl

theorem hintOfArray_replaceMembers (h : ∀ schema, items? node = some schema → describes (replace f schema) = true) :
    hintOfArray read (replaceMembers f node) = hintOfArray (fun schema => read (replace f schema)) node := by
  rw [hintOfArray, hintOfArray, items?_replaceMembers h, tupleItems?_replaceMembers]
  cases items? node with
  | some schema => rfl
  | none =>
    cases tupleItems? node with
    | none => rfl
    | some schemas =>
      dsimp only [Option.map_some, Option.map_none, Option.getD_some]
      rw [List.map_map]
      rfl

theorem hintOfObject_replaceMembers (h : ∀ schema, values? node = some schema → describes (replace f schema) = true) :
    hintOfObject read (replaceMembers f node) = hintOfObject (fun schema => read (replace f schema)) node := by
  rw [hintOfObject, hintOfObject, values?_replaceMembers h, properties?_replaceMembers, isClosed_replaceMembers h,
    title_replaceMembers, requiredNames_replaceMembers]
  cases properties? node with
  | some properties =>
    dsimp only [Option.map_some]
    rw [List.map_map]
    rfl
  | none => cases values? node <;> rfl

theorem describes_of_items? {kinds : List String} (hof : Node.of node = .typed kinds) (harray : "array" ∈ kinds)
    (h : ∀ schema ∈ contents node, describes (replace f schema) = true) (schema : Json)
    (hitems : items? node = some schema) : describes (replace f schema) = true := by
  apply h
  rw [contents, hof]
  dsimp only
  rw [if_pos harray, hitems]
  exact List.mem_append_left _ (List.mem_singleton_self schema)

theorem describes_of_values? {kinds : List String} (hof : Node.of node = .typed kinds) (hobject : "object" ∈ kinds)
    (h : ∀ schema ∈ contents node, describes (replace f schema) = true) (schema : Json)
    (hvalues : values? node = some schema) : describes (replace f schema) = true := by
  apply h
  rw [contents, hof]
  dsimp only
  rw [if_pos hobject, hvalues]
  exact List.mem_append_right _ (List.mem_singleton_self schema)

/-- a node has the parts that it had, each replaced -/
theorem parts_replaceMembers (h : ∀ schema ∈ contents node, describes (replace f schema) = true) :
    parts (.object (replaceMembers f node)) = (parts (.object node)).map (replace f) := by
  rw [parts, parts, Node.of_replaceMembers]
  cases hof : Node.of node with
  | typed kinds =>
    have hkind : ∀ kind ∈ kinds, kindParts (replaceMembers f node) kind = (kindParts node kind).map (replace f) := by
      intro kind hkind
      rw [kindParts, kindParts]
      split
      · next harray => exact itemParts_replaceMembers (describes_of_items? hof (harray ▸ hkind) h)
      · split
        · next hobject => exact memberParts_replaceMembers (describes_of_values? hof (hobject ▸ hkind) h)
        · rfl
    dsimp only [Node.map]
    rw [List.map_flatMap]
    exact List.flatMap_congr hkind
  | _ => rfl

/-- and is read by what is read in their places -/
theorem hintOf_replaceMembers (h : ∀ schema ∈ contents node, describes (replace f schema) = true) :
    hintOf read (replaceMembers f node) = hintOf (fun schema => read (replace f schema)) node := by
  rw [hintOf, hintOf, Node.of_replaceMembers]
  cases hof : Node.of node with
  | alternatives variants =>
    dsimp only [Node.map]
    rw [List.map_map]
    rfl
  | typed kinds =>
    have hkind : ∀ kind ∈ kinds, hintOfKind read (replaceMembers f node) kind =
        hintOfKind (fun schema => read (replace f schema)) node kind := by
      intro kind hkind
      rw [hintOfKind, hintOfKind]
      split
      · next harray => exact hintOfArray_replaceMembers (describes_of_items? hof (harray ▸ hkind) h)
      · split
        · next hobject => exact hintOfObject_replaceMembers (describes_of_values? hof (hobject ▸ hkind) h)
        · rfl
    dsimp only [Node.map]
    rw [List.map_congr_left hkind]
  | _ => rfl

end

end Hint

end ToolSchema
