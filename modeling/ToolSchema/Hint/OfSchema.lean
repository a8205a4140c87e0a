/-
Hints from JSON Schema documents.

`ofSchema` reads a document. References into its definitions are put in place; a reference back into a definition that
is being read becomes a name, which resolution later cuts. Of the keywords of a node only the first counts, in the
order `$ref`, `const`, `enum`, `anyOf` or `oneOf`, `allOf`, `type`, `properties`, `items`: `Node.of` makes that
choice.

Reading ends because each expansion puts one more of the document's names on the stack, and every other step goes to a
part of the node.
-/
import ToolSchema.Diagnostic
import ToolSchema.Hint.Basic
import ToolSchema.Measure

namespace ToolSchema.Hint

/-! ## Definitions of a document -/

/-- the members of a document that hold definitions -/
def sections : List String := ["$defs", "definitions"]

def definitions (root : Json) (key : String) : List (String × Json) :=
  ((root.get? key).bind Json.object?).getD []

/-- the name of the whole document, if it has a title -/
def title? (j : Json) : Option String :=
  (j.get? "title").bind Json.string?

/-- what the whole document is called on the stack -/
def rootName (root : Json) : String :=
  (title? root).getD "#"

/-- everything that can be expanded -/
def expandable (root : Json) : List String :=
  rootName root :: sections.flatMap fun s => (definitions root s).map Prod.fst

/-- in the last part of a reference, `~1` stands for a slash and `~0` for a tilde -/
def unescape : List Char → List Char
  | '~' :: '1' :: rest => '/' :: unescape rest
  | '~' :: '0' :: rest => '~' :: unescape rest
  | c :: rest => c :: unescape rest
  | [] => []

/-- the name that a reference ends in -/
def referenceName (reference : String) : String :=
  String.ofList (unescape (reference.toList.reverse.takeWhile (· != '/')).reverse)

/-- the definition under a name, in the first section that the reference points into and that has it -/
def definition? (root : Json) (reference name : String) : Option Json :=
  sections.findSome? fun s =>
    if ("#/" ++ s ++ "/").toList.isPrefixOf reference.toList then (definitions root s).lookup name else none

theorem mem_expandable {root definition : Json} {reference name : String}
    (h : definition? root reference name = some definition) : name ∈ expandable root := by
  obtain ⟨s, hs, hdef⟩ := List.exists_of_findSome?_eq_some h
  simp only [expandable, List.mem_cons, List.mem_flatMap]
  refine .inr ⟨s, hs, ?_⟩
  split at hdef
  · have := (Entries.mem_keys_iff_has name (definitions root s)).2 (by simp [Entries.has, hdef])
    simpa [Entries.keys] using this
  · simp at hdef

/-! ## Keywords of a node -/

/-- what the keywords of a node say -/
inductive Node where
  | reference (path : String)
  | literal (values : List Json)
  | alternatives (variants : List Json)
  | part (schema : Json)
  | severalParts
  | typed (kinds : List String)
  | untyped

namespace Node

def ofReference? (node : List (String × Json)) : Option Node :=
  (node.lookup "$ref").bind fun j => j.string?.map .reference

def ofConst? (node : List (String × Json)) : Option Node :=
  (node.lookup "const").map fun value => .literal [value]

def ofEnum? (node : List (String × Json)) : Option Node :=
  (node.lookup "enum").bind fun j => j.array?.map .literal

/-- an `anyOf` that is no list still hides an `oneOf` -/
def ofAlternatives? (node : List (String × Json)) : Option Node :=
  ((node.lookup "anyOf").or (node.lookup "oneOf")).bind fun j => j.array?.map .alternatives

def ofParts? (node : List (String × Json)) : Option Node :=
  (node.lookup "allOf").bind fun j => j.array?.map fun
    | [schema] => .part schema
    | _ => .severalParts

def ofType? (node : List (String × Json)) : Option Node :=
  (node.lookup "type").bind fun
    | .string kind => some (.typed [kind])
    | .array kinds => some (.typed (kinds.filterMap Json.string?))
    | _ => none

/-- the type that is meant where none is given -/
def ofContents (node : List (String × Json)) : Node :=
  if Entries.has "properties" node then .typed ["object"]
  else if Entries.has "items" node then .typed ["array"]
  else .untyped

/-- what the keywords say that do more than describe contents -/
def ofKeywords? (node : List (String × Json)) : Option Node :=
  (ofReference? node).or <| (ofConst? node).or <| (ofEnum? node).or <| (ofAlternatives? node).or <|
    (ofParts? node).or (ofType? node)

def of (node : List (String × Json)) : Node :=
  (ofKeywords? node).getD (ofContents node)

/-- the size of the schemas inside -/
noncomputable def inner : Node → Nat
  | .alternatives variants => sizeOf variants
  | .part schema => sizeOf schema
  | _ => 0

theorem inner_ofAlternatives? {node : List (String × Json)} {n : Node} (h : ofAlternatives? node = some n) :
    n.inner < sizeOf node := by
  obtain ⟨j, hj, hn⟩ := Option.bind_eq_some_iff.1 h
  have hsize : sizeOf j < sizeOf node := by
    rcases Option.or_eq_some_iff.1 hj with h | ⟨-, h⟩ <;> exact Json.sizeOf_lt_of_lookup h
  cases j with
  | array items =>
    simp only [Json.array?, Option.map_some, Option.some.injEq] at hn
    subst hn
    simp only [Json.array.sizeOf_spec] at hsize
    simp only [inner]
    omega
  | _ => simp [Json.array?] at hn

theorem inner_ofParts? {node : List (String × Json)} {n : Node} (h : ofParts? node = some n) :
    n.inner < sizeOf node := by
  obtain ⟨j, hj, hn⟩ := Option.bind_eq_some_iff.1 h
  have hsize := Json.sizeOf_lt_of_lookup hj
  cases j with
  | array items =>
    simp only [Json.array?, Option.map_some, Option.some.injEq] at hn
    subst hn
    simp only [Json.array.sizeOf_spec] at hsize
    split
    · simp only [inner, List.cons.sizeOf_spec] at hsize ⊢
      omega
    · simp only [inner]
      omega
  | _ => simp [Json.array?] at hn

/-- the schemas inside a node are parts of it -/
theorem inner_of_lt (node : List (String × Json)) : (of node).inner < sizeOf node := by
  have hpos : 0 < sizeOf node := by
    cases node with
    | nil => simp only [List.nil.sizeOf_spec, Nat.lt_add_one]
    | cons e rest => simp only [List.cons.sizeOf_spec]; omega
  have flat : ∀ n : Node, n.inner = 0 → n.inner < sizeOf node := fun n h => h ▸ hpos
  unfold of
  cases h : ofKeywords? node with
  | none =>
    apply flat
    simp only [Option.getD_none, ofContents]
    split
    · rfl
    · split <;> rfl
  | some n =>
    simp only [Option.getD_some]
    simp only [ofKeywords?, Option.or_eq_some_iff] at h
    rcases h with h | ⟨-, h | ⟨-, h | ⟨-, h | ⟨-, h | ⟨-, h⟩⟩⟩⟩⟩
    · obtain ⟨j, -, hn⟩ := Option.bind_eq_some_iff.1 h
      obtain ⟨s, -, rfl⟩ := Option.map_eq_some_iff.1 hn
      exact flat _ rfl
    · obtain ⟨j, -, rfl⟩ := Option.map_eq_some_iff.1 h
      exact flat _ rfl
    · obtain ⟨j, -, hn⟩ := Option.bind_eq_some_iff.1 h
      obtain ⟨vs, -, rfl⟩ := Option.map_eq_some_iff.1 hn
      exact flat _ rfl
    · exact inner_ofAlternatives? h
    · exact inner_ofParts? h
    · obtain ⟨j, -, hn⟩ := Option.bind_eq_some_iff.1 h
      cases j with
      | string kind => exact flat _ (by cases hn; rfl)
      | array kinds => exact flat _ (by cases hn; rfl)
      | _ => cases hn

end Node

/-! ## Reading -/

/-- a type that no schema equivalent exists for, reported by what it is -/
def unsupportedWith (label : String) (d : Diagnostic) : Traced Hint := do
  Traced.note d
  return .unsupported label

/-- the name of an expanded definition goes to the record that it defines -/
def withName (name : String) : Hint → Hint
  | .record r => .record { r with name := some name }
  | h => h

/-- One alternative stands for itself, several literals are one literal, and anything else is a union. -/
def ofAlternatives : List Hint → Hint
  | [] => .union []
  | [h] => h
  | hints =>
    match literals? hints with
    | some values => .literal values
    | none => .union hints
where
  /-- the values of all hints, if all are literals -/
  literals? : List Hint → Option (List Json)
    | [] => some []
    | .literal values :: rest => (literals? rest).map (values ++ ·)
    | _ :: _ => none

/-- one type stands for itself, several are a union -/
def ofKinds : List Hint → Hint
  | [h] => h
  | hints => .union hints

/-- the schema of the items of a list, if it says anything about all of them -/
def items? (node : List (String × Json)) : Option Json :=
  (node.lookup "items").filter fun
    | .object _ => true
    | .bool b => b
    | _ => false

/-- the schemas of the items of a tuple -/
def tupleItems? (node : List (String × Json)) : Option (List Json) :=
  (node.lookup "prefixItems").bind Json.array?

def properties? (node : List (String × Json)) : Option (List (String × Json)) :=
  (node.lookup "properties").bind Json.object?

def requiredNames (node : List (String × Json)) : List String :=
  (((node.lookup "required").bind Json.array?).getD []).filterMap Json.string?

/-- keys beyond the declared ones are refused -/
def isClosed (node : List (String × Json)) : Bool :=
  match node.lookup "additionalProperties" with
  | some (.bool false) => true
  | _ => false

/-- the schema of the values of a mapping, if it says anything about all of them -/
def values? (node : List (String × Json)) : Option Json :=
  (node.lookup "additionalProperties").filter fun
    | .object _ => true
    | .bool b => b
    | _ => false

theorem sizeOf_lt_of_filter {node : List (String × Json)} {key : String} {p : Json → Bool} {j : Json}
    (h : (node.lookup key).filter p = some j) : sizeOf j < sizeOf node :=
  Json.sizeOf_lt_of_lookup (Option.filter_eq_some_iff.1 h).1

theorem sizeOf_lt_of_tupleItems? {node : List (String × Json)} {items : List Json} (h : tupleItems? node = some items) :
    sizeOf items < sizeOf node := by
  obtain ⟨j, hj, hitems⟩ := Option.bind_eq_some_iff.1 h
  have := Json.sizeOf_lt_of_lookup hj
  cases j with
  | array js =>
    cases hitems
    simp only [Json.array.sizeOf_spec] at this
    omega
  | _ => cases hitems

theorem sizeOf_lt_of_properties? {node members : List (String × Json)} (h : properties? node = some members) :
    sizeOf members < sizeOf node := by
  obtain ⟨j, hj, hmembers⟩ := Option.bind_eq_some_iff.1 h
  have := Json.sizeOf_lt_of_lookup hj
  cases j with
  | object ms =>
    cases hmembers
    simp only [Json.object.sizeOf_spec] at this
    omega
  | _ => cases hmembers

/-- the item type of a tuple whose items are all of one type -/
def ofTuple (hints : List Hint) : Traced Hint :=
  match hints.getLast? with
  | none => pure (.array none)
  | some last =>
    if hints.dropLast.all (·.same last) then pure (.array (some last)) else unsupportedWith "tuple" .mixedTuple

mutual

/-- read one schema of the document `root`; `stack` holds the names that are being expanded -/
def readSchema (root : Json) (stack : List String) (schema : Json) : Traced Hint :=
  match schema with
  | .bool true => pure .any
  | .bool false => pure (.unsupported "never")
  | .object node =>
    match _h : Node.of node with
    | .reference reference =>
      if reference = "#" then expand root stack (rootName root) root (by simp [expandable])
      else
        match _hdef : definition? root reference (referenceName reference) with
        | some definition => expand root stack (referenceName reference) definition (mem_expandable _hdef)
        | none => pure (.named (referenceName reference))
    | .literal values => pure (.literal values)
    | .alternatives variants => do
      let hints ← readAll root stack variants
      return ofAlternatives hints
    | .part schema => readSchema root stack schema
    | .severalParts => unsupportedWith "allOf" .severalParts
    | .typed kinds => do
      let hints ← readKinds root stack node kinds
      return ofKinds hints
    | .untyped => pure .any
  | other => do
    Traced.note (.schemaNotObject other)
    return .any
termination_by (fresh (expandable root) stack, sizeOf schema, 1)
decreasing_by
  · exact Measure.smaller (by simp only [Json.object.sizeOf_spec]; omega)
  · exact Measure.smaller (by simp only [Json.object.sizeOf_spec]; omega)
  · have := Node.inner_of_lt node
    rw [_h] at this
    exact Measure.smaller (by simp only [Node.inner, Json.object.sizeOf_spec] at this ⊢; omega)
  · have := Node.inner_of_lt node
    rw [_h] at this
    exact Measure.smaller (by simp only [Node.inner, Json.object.sizeOf_spec] at this ⊢; omega)
  · exact Measure.smaller (by simp)

/-- put a definition in place, unless it is being expanded already -/
def expand (root : Json) (stack : List String) (name : String) (definition : Json) (_hname : name ∈ expandable root) :
    Traced Hint :=
  if _hstack : name ∈ stack then pure (.named name)
  else do
    let h ← readSchema root (name :: stack) definition
    return withName name h
termination_by (fresh (expandable root) stack, 0, 0)
decreasing_by
  exact Measure.fresher (fresh_cons_lt _hname _hstack)

def readAll (root : Json) (stack : List String) : List Json → Traced (List Hint)
  | [] => pure []
  | schema :: rest => do
    let h ← readSchema root stack schema
    let hs ← readAll root stack rest
    return h :: hs
termination_by schemas => (fresh (expandable root) stack, sizeOf schemas, 0)
decreasing_by
  · exact Measure.smaller (by simp only [List.cons.sizeOf_spec]; omega)
  · exact Measure.smaller (by simp only [List.cons.sizeOf_spec]; omega)

def readKinds (root : Json) (stack : List String) (node : List (String × Json)) : List String → Traced (List Hint)
  | [] => pure []
  | kind :: rest => do
    let h ← readKind root stack node kind
    let hs ← readKinds root stack node rest
    return h :: hs
termination_by kinds => (fresh (expandable root) stack, sizeOf node, kinds.length + 1)
decreasing_by
  · exact Measure.later (by simp)
  · exact Measure.later (by simp)

/-- what a node says about values of one kind -/
def readKind (root : Json) (stack : List String) (node : List (String × Json)) (kind : String) : Traced Hint :=
  match kind with
  | "null" => pure .null
  | "string" => pure .string
  | "integer" => pure .integer
  | "number" => pure .number
  | "boolean" => pure .boolean
  | "array" =>
    match _hitems : items? node with
    | some items => do
      let h ← readSchema root stack items
      return .array (some h)
    | none =>
      match _htuple : tupleItems? node with
      | some items => do
        let hints ← readAll root stack items
        ofTuple hints
      | none => pure (.array none)
  | "object" =>
    match _hprops : properties? node with
    | some properties => do
      let fields ← readFields root stack (requiredNames node) properties
      return .record ⟨(node.lookup "title").bind Json.string?, fields, isClosed node⟩
    | none =>
      if isClosed node then pure (.record ⟨none, [], true⟩)
      else
        match _hvalues : values? node with
        | some values => do
          let h ← readSchema root stack values
          return .map (some .string) (some h)
        | none => pure (.map none none)
  | other => unsupportedWith other (.unknownSchemaType other)
termination_by (fresh (expandable root) stack, sizeOf node, 0)
decreasing_by
  · exact Measure.smaller (sizeOf_lt_of_filter _hitems)
  · exact Measure.smaller (sizeOf_lt_of_tupleItems? _htuple)
  · exact Measure.smaller (sizeOf_lt_of_properties? _hprops)
  · exact Measure.smaller (sizeOf_lt_of_filter _hvalues)

def readFields (root : Json) (stack : List String) (required : List String) :
    List (String × Json) → Traced (List (Field Hint))
  | [] => pure []
  | (name, schema) :: rest => do
    let h ← readSchema root stack schema
    let fs ← readFields root stack required rest
    return ⟨name, h, required.contains name⟩ :: fs
termination_by properties => (fresh (expandable root) stack, sizeOf properties, 0)
decreasing_by
  · exact Measure.smaller (by simp only [List.cons.sizeOf_spec, Prod.mk.sizeOf_spec]; omega)
  · exact Measure.smaller (by simp only [List.cons.sizeOf_spec, Prod.mk.sizeOf_spec]; omega)

end

/-- The hint that a document describes. Its title, if it has one, is under expansion from the start. -/
def ofSchema (root : Json) : Traced Hint :=
  readSchema root (title? root).toList root

end ToolSchema.Hint
