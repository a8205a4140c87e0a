/-
What a node is read as, given what its parts are read as.

`parts` lists the schemas that the reading of a schema goes on to, under the same names, and `hintOf` puts what they
are read as together. A node that is no reference is read in this way (`value_eq_hintOf`). So what goes from the hints
of the parts to the hints that are put together from them (`Compatible`) holds of a node if it holds of its parts
(`hintOf_related`):
- `names_hintOf`: no name is left in a node if none is left in its parts.
- `hintOf_congr`: a node is read the same where its parts are.
- `unnamed_hintOf`: the same up to the names of records, if the items of its tuple are alike as before.

In a schema that is `ReferenceFree` reading comes to no reference, so that the document around it does not matter
(`ReferenceFree.value_eq`).
-/
import ToolSchema.Proofs.Hint.SelfContained
import ToolSchema.Proofs.Hint.Unnamed

namespace ToolSchema.Hint

open Schema

variable {root : Json} {stack : List String} {node : List (String × Json)} {kind : String} {read read' : Json → Hint}

/-! ## Parts -/

def itemParts (node : List (String × Json)) : List Json :=
  match items? node with
  | some schema => [schema]
  | none => (tupleItems? node).getD []

def memberParts (node : List (String × Json)) : List Json :=
  match properties? node with
  | some properties => properties.map Prod.snd
  | none => (values? node).toList

/-- the schemas inside a node that are read for values of a kind -/
def kindParts (node : List (String × Json)) (kind : String) : List Json :=
  if kind = "array" then itemParts node else if kind = "object" then memberParts node else []

/-- the schemas inside a schema that reading goes on to -/
def parts : Json → List Json
  | .object node =>
    match Node.of node with
    | .alternatives variants => variants
    | .part schema => [schema]
    | .typed kinds => kinds.flatMap (kindParts node)
    | _ => []
  | _ => []

/-- the schemas among them that are read as the items of a tuple -/
def tuple (node : List (String × Json)) : List Json :=
  match Node.of node with
  | .typed kinds => if "array" ∈ kinds ∧ (items? node).isNone then (tupleItems? node).getD [] else []
  | _ => []

theorem part_of_mem_kindParts {part : Json} (h : part ∈ kindParts node kind) : Part (.object node) part := by
  rw [kindParts] at h
  split at h
  · rw [itemParts] at h
    split at h
    · next schema hitems =>
      rw [List.mem_singleton.1 h]
      exact .items hitems
    · cases htuple : tupleItems? node with
      | none =>
        rw [htuple] at h
        cases h
      | some items =>
        rw [htuple] at h
        exact .tupleItem htuple h
  · split at h
    · rw [memberParts] at h
      split at h
      · next properties hproperties =>
        obtain ⟨p, hp, rfl⟩ := List.mem_map.1 h
        exact .property hproperties hp
      · exact .values (Option.mem_toList.1 h)
    · cases h

theorem part_of_mem_parts {schema part : Json} (h : part ∈ parts schema) : Part schema part := by
  cases schema with
  | object node =>
    rw [parts] at h
    cases hof : Node.of node with
    | alternatives variants =>
      rw [hof] at h
      exact .alternative hof h
    | part schema =>
      rw [hof] at h
      rw [List.mem_singleton.1 h]
      exact .sole hof
    | typed kinds =>
      rw [hof] at h
      obtain ⟨kind, -, hpart⟩ := List.mem_flatMap.1 h
      exact part_of_mem_kindParts hpart
    | _ =>
      rw [hof] at h
      cases h
  | _ => cases h

/-! ## Hints put together from parts -/

def fieldOf (read : Json → Hint) (required : List String) (property : String × Json) : Field Hint :=
  ⟨property.1, read property.2, required.contains property.1⟩

def hintOfArray (read : Json → Hint) (node : List (String × Json)) : Hint :=
  match items? node with
  | some schema => .array (some (read schema))
  | none => (ofTuple (((tupleItems? node).getD []).map read)).value

def hintOfObject (read : Json → Hint) (node : List (String × Json)) : Hint :=
  match properties? node with
  | some properties =>
    .record ⟨(node.lookup "title").bind Json.string?, properties.map (fieldOf read (requiredNames node)), isClosed node⟩
  | none =>
    if isClosed node then .record ⟨none, [], true⟩
    else match values? node with
      | some schema => .map (some .string) (some (read schema))
      | none => .map none none

/-- a kind of values without parts -/
def hintOfScalar : String → Hint
  | "null" => .null
  | "string" => .string
  | "integer" => .integer
  | "number" => .number
  | "boolean" => .boolean
  | other => .unsupported other

def hintOfKind (read : Json → Hint) (node : List (String × Json)) (kind : String) : Hint :=
  if kind = "array" then hintOfArray read node
  else if kind = "object" then hintOfObject read node
  else hintOfScalar kind

/-- the hint of a node that is no reference, where `read` gives the hints of its parts -/
def hintOf (read : Json → Hint) (node : List (String × Json)) : Hint :=
  match Node.of node with
  | .literal values => .literal values
  | .alternatives variants => ofAlternatives (variants.map read)
  | .part schema => read schema
  | .severalParts => .unsupported "allOf"
  | .typed kinds => ofKinds (kinds.map (hintOfKind read node))
  | _ => .any

theorem readKind_array_value :
    (readKind root stack node "array").value = hintOfArray (fun schema => (readSchema root stack schema).value) node := by
  rw [hintOfArray]
  cases hitems : items? node with
  | some schema => rw [readKind_array hitems]
  | none =>
    cases htuple : tupleItems? node with
    | some schemas =>
      rw [readKind_tuple hitems htuple]
      rfl
    | none =>
      rw [readKind_bareArray hitems htuple]
      rfl

theorem readKind_object_value :
    (readKind root stack node "object").value =
      hintOfObject (fun schema => (readSchema root stack schema).value) node := by
  rw [hintOfObject]
  cases hproperties : properties? node with
  | some properties => exact readKind_record hproperties
  | none => exact readKind_mapping hproperties

theorem readKind_value (kind : String) :
    (readKind root stack node kind).value =
      hintOfKind (fun schema => (readSchema root stack schema).value) node kind := by
  rw [hintOfKind]
  split
  · next harray =>
    rw [harray]
    exact readKind_array_value
  · next harray =>
    split
    · next hobject =>
      rw [hobject]
      exact readKind_object_value
    · next hobject =>
      unfold readKind
      split
      case h_6 => exact absurd rfl harray
      case h_7 => exact absurd rfl hobject
      case h_8 =>
        unfold hintOfScalar
        split <;> first | rfl | contradiction
      all_goals rfl

theorem value_eq_hintOf (hof : ∀ path, Node.of node ≠ .reference path) :
    (readSchema root stack (.object node)).value =
      hintOf (fun schema => (readSchema root stack schema).value) node := by
  rw [hintOf]
  cases hnode : Node.of node with
  | reference path => exact absurd hnode (hof path)
  | literal values => exact readSchema_literal hnode
  | alternatives variants => exact readSchema_alternatives hnode
  | part schema => rw [readSchema_part hnode]
  | severalParts => exact readSchema_severalParts hnode
  | typed kinds =>
    rw [readSchema_kinds hnode]
    simp only [readKind_value]
  | untyped => exact readSchema_untyped hnode

/-! ## From the parts to the node -/

/-- what holds of hints holds of those that are put together from them -/
structure Compatible (R : Hint → Hint → Prop) (read read' : Json → Hint) : Prop where
  flat : ∀ h : Hint, h.names = [] → R h h
  alternatives : ∀ schemas : List Json, (∀ schema ∈ schemas, R (read schema) (read' schema)) →
    R (ofAlternatives (schemas.map read)) (ofAlternatives (schemas.map read'))
  kinds : ∀ (kinds : List String) (f f' : String → Hint), (∀ kind ∈ kinds, R (f kind) (f' kind)) →
    R (ofKinds (kinds.map f)) (ofKinds (kinds.map f'))
  array : ∀ schema, R (read schema) (read' schema) → R (.array (some (read schema))) (.array (some (read' schema)))
  values : ∀ schema, R (read schema) (read' schema) →
    R (.map (some .string) (some (read schema))) (.map (some .string) (some (read' schema)))
  record : ∀ (name : Option String) (required : List String) (closed : Bool) (properties : List (String × Json)),
    (∀ p ∈ properties, R (read p.2) (read' p.2)) →
      R (.record ⟨name, properties.map (fieldOf read required), closed⟩)
        (.record ⟨name, properties.map (fieldOf read' required), closed⟩)

variable {R : Hint → Hint → Prop}

theorem hintOfArray_related (hR : Compatible R read read') (h : ∀ part ∈ itemParts node, R (read part) (read' part))
    (htuple : items? node = none → R (ofTuple (((tupleItems? node).getD []).map read)).value
      (ofTuple (((tupleItems? node).getD []).map read')).value) :
    R (hintOfArray read node) (hintOfArray read' node) := by
  rw [itemParts] at h
  rw [hintOfArray, hintOfArray]
  cases hitems : items? node with
  | some schema =>
    rw [hitems] at h
    exact hR.array schema (h schema (List.mem_singleton_self schema))
  | none => exact htuple hitems

theorem hintOfObject_related (hR : Compatible R read read') (h : ∀ part ∈ memberParts node, R (read part) (read' part)) :
    R (hintOfObject read node) (hintOfObject read' node) := by
  rw [memberParts] at h
  rw [hintOfObject, hintOfObject]
  cases hproperties : properties? node with
  | some properties =>
    rw [hproperties] at h
    exact hR.record _ _ _ _ fun p hp => h p.2 (List.mem_map_of_mem hp)
  | none =>
    rw [hproperties] at h
    dsimp only
    split
    · exact hR.flat _ rfl
    · cases hvalues : values? node with
      | some schema =>
        rw [hvalues] at h
        exact hR.values schema (h schema (List.mem_singleton_self schema))
      | none => exact hR.flat _ rfl

theorem names_hintOfScalar (kind : String) : (hintOfScalar kind).names = [] := by
  unfold hintOfScalar
  split <;> rfl

/-- what holds of the parts of a node, and of its tuple, holds of the node -/
theorem hintOf_related (hR : Compatible R read read') (h : ∀ part ∈ parts (.object node), R (read part) (read' part))
    (htuple : R (ofTuple ((tuple node).map read)).value (ofTuple ((tuple node).map read')).value) :
    R (hintOf read node) (hintOf read' node) := by
  rw [parts] at h
  rw [tuple] at htuple
  rw [hintOf, hintOf]
  cases hof : Node.of node with
  | alternatives variants =>
    rw [hof] at h
    exact hR.alternatives variants h
  | part schema =>
    rw [hof] at h
    exact h schema (List.mem_singleton_self schema)
  | typed kinds =>
    rw [hof] at h htuple
    refine hR.kinds kinds _ _ fun kind hkind => ?_
    have hpart : ∀ part ∈ kindParts node kind, R (read part) (read' part) :=
      fun part hpart => h part (List.mem_flatMap.2 ⟨kind, hkind, hpart⟩)
    rw [kindParts] at hpart
    rw [hintOfKind, hintOfKind]
    split
    · next harray =>
      rw [if_pos harray] at hpart
      refine hintOfArray_related hR hpart fun hitems => ?_
      have htyped : "array" ∈ kinds ∧ (items? node).isNone = true := ⟨harray ▸ hkind, hitems ▸ rfl⟩
      dsimp only at htuple
      rw [if_pos htyped] at htuple
      exact htuple
    · next harray =>
      rw [if_neg harray] at hpart
      split
      · next hobject =>
        rw [if_pos hobject] at hpart
        exact hintOfObject_related hR hpart
      · exact hR.flat _ (names_hintOfScalar kind)
  | _ => exact hR.flat _ rfl

theorem mem_parts_of_mem_tuple {part : Json} (h : part ∈ tuple node) : part ∈ parts (.object node) := by
  rw [tuple] at h
  rw [parts]
  cases hof : Node.of node with
  | typed kinds =>
    rw [hof] at h
    dsimp only at h ⊢
    split at h
    · next harray =>
      refine List.mem_flatMap.2 ⟨"array", harray.1, ?_⟩
      rw [kindParts, if_pos rfl, itemParts, Option.isNone_iff_eq_none.1 harray.2]
      exact h
    · cases h
  | _ =>
    rw [hof] at h
    cases h

/-! ## What is left in a node -/

theorem compatible_names (read : Json → Hint) : Compatible (fun h _ => h.names = []) read read where
  flat _ hnames := hnames
  alternatives schemas h := by
    rw [names_ofAlternatives, allNames_eq_flatMap, List.flatMap_map]
    exact List.flatMap_eq_nil_iff.2 h
  kinds kinds f _ h := by
    rw [names_ofKinds, allNames_eq_flatMap, List.flatMap_map]
    exact List.flatMap_eq_nil_iff.2 h
  array _ h := h
  values _ h := h
  record _ _ _ properties h := by
    rw [names, fieldNames_eq_flatMap, List.flatMap_map]
    exact List.flatMap_eq_nil_iff.2 h

/-- no name is left in a node if none is left in its parts -/
theorem names_hintOf (h : ∀ part ∈ parts (.object node), (read part).names = []) : (hintOf read node).names = [] := by
  refine hintOf_related (compatible_names read) h (List.sublist_nil.1 ?_)
  have hitems : allNames ((tuple node).map read) = [] := by
    rw [allNames_eq_flatMap, List.flatMap_map]
    exact List.flatMap_eq_nil_iff.2 fun part hpart => h part (mem_parts_of_mem_tuple hpart)
  exact hitems ▸ names_ofTuple ((tuple node).map read)

/-! ## Other hints of the parts -/

theorem compatible_eq (read read' : Json → Hint) : Compatible Eq read read' where
  flat _ _ := rfl
  alternatives _ h := by rw [List.map_congr_left h]
  kinds _ _ _ h := by rw [List.map_congr_left h]
  array _ h := by rw [h]
  values _ h := by rw [h]
  record _ required _ _ h := by
    rw [List.map_congr_left fun p hp => show fieldOf read required p = fieldOf read' required p by
      rw [fieldOf, fieldOf, h p hp]]

theorem hintOf_congr (h : ∀ part ∈ parts (.object node), read part = read' part) :
    hintOf read node = hintOf read' node := by
  refine hintOf_related (compatible_eq read read') h ?_
  rw [List.map_congr_left fun part hpart => h part (mem_parts_of_mem_tuple hpart)]

theorem compatible_unnamed (read read' : Json → Hint) : Compatible (fun h h' => h.unnamed = h'.unnamed) read read' where
  flat _ _ := rfl
  alternatives schemas h := by
    rw [unnamed_ofAlternatives, unnamed_ofAlternatives, List.map_map, List.map_map]
    exact congrArg ofAlternatives (List.map_congr_left h)
  kinds kinds _ _ h := by
    rw [unnamed_ofKinds, unnamed_ofKinds, List.map_map, List.map_map]
    exact congrArg ofKinds (List.map_congr_left h)
  array _ h := by rw [unnamed, unnamed, optionUnnamed, optionUnnamed, h]
  values _ h := by rw [unnamed, unnamed, optionUnnamed, optionUnnamed, optionUnnamed, h]
  record name required closed properties h := by
    rw [unnamed, unnamed, fieldsUnnamed_eq_map, fieldsUnnamed_eq_map, List.map_map, List.map_map]
    rw [List.map_congr_left fun p hp => ?_]
    simp only [Function.comp_apply, fieldOf, h p hp]

/-- up to names, a node is read as its parts are, if the items of its tuple are alike as before -/
theorem unnamed_hintOf (h : ∀ part ∈ parts (.object node), (read part).unnamed = (read' part).unnamed)
    (halike : alike ((tuple node).map read) = alike ((tuple node).map read')) :
    (hintOf read node).unnamed = (hintOf read' node).unnamed := by
  refine hintOf_related (compatible_unnamed read read') h (unnamed_ofTuple halike ?_)
  rw [List.map_map, List.map_map]
  exact List.map_congr_left fun part hpart => h part (mem_parts_of_mem_tuple hpart)

/-! ## Schemas without references -/

/-- reading of the schema comes to no reference -/
inductive ReferenceFree : Json → Prop
  | of_parts {schema : Json} (hof : ∀ node path, schema = .object node → Node.of node ≠ .reference path)
    (hparts : ∀ part ∈ parts schema, ReferenceFree part) : ReferenceFree schema

/-- so it is read the same in every document, whatever is under expansion -/
theorem ReferenceFree.value_eq {schema : Json} (h : ReferenceFree schema) (root root' : Json)
    (stack stack' : List String) : (readSchema root stack schema).value = (readSchema root' stack' schema).value := by
  induction h with
  | @of_parts schema hof _ ih =>
    cases schema with
    | object node =>
      have hreference : ∀ path, Node.of node ≠ .reference path := fun path => hof node path rfl
      rw [value_eq_hintOf hreference, value_eq_hintOf hreference]
      exact hintOf_congr ih
    | bool b => cases b <;> simp only [readSchema]
    | _ => simp only [readSchema]

theorem mem_references_of_eq_reference {path : String} (hof : Node.of node = .reference path) :
    path ∈ (Json.object node).references := by
  cases Node.says_of_eq hof nofun nofun with
  | ref hlookup => exact Json.mem_references_of_lookup hlookup

theorem referenceFree_of_references (schema : Json) (h : schema.references = []) : ReferenceFree schema := by
  refine .of_parts (fun node path hnode hof => ?_) fun part hpart => ?_
  · subst hnode
    have hmem := mem_references_of_eq_reference hof
    rw [h] at hmem
    cases hmem
  · refine referenceFree_of_references part (List.subset_nil.1 ?_)
    exact h ▸ references_subset_of_part (part_of_mem_parts hpart)
termination_by sizeOf schema
decreasing_by exact (part_of_mem_parts hpart).sizeOf_lt

end ToolSchema.Hint
