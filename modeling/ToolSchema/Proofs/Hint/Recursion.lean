/-
The recursion of reading, as proofs use it.

Lists of schemas, of kinds and of properties are read one after another (`readAll_eq_mapM`, `readKinds_eq_mapM`,
`readFields_eq_mapM`). For each keyword that a node is read by there is an equation for its hint (`readSchema_kinds`,
`readKind_record` and so on). What is to hold of every reading is shown by `reading_induct`, which knows two ways down:
to a definition, under one more name, and to a schema inside (`Part`), under the same names.
-/
import ToolSchema.Proofs.Hint.Names

namespace ToolSchema

theorem Traced.mapM_value {α β : Type} (f : α → Traced β) (l : List α) :
    (l.mapM f).value = l.map fun a => (f a).value := by
  induction l with
  | nil => rfl
  | cons a rest ih => rw [List.mapM_cons, bind_value, bind_value, pure_value, ih, List.map_cons]

namespace Hint

variable {root : Json} {stack : List String} {node : List (String × Json)}

/-! ## Lists -/

theorem readAll_eq_mapM (schemas : List Json) : readAll root stack schemas = schemas.mapM (readSchema root stack) := by
  induction schemas with
  | nil =>
    rw [readAll]
    rfl
  | cons schema rest ih => rw [readAll, ih, List.mapM_cons]

theorem readKinds_eq_mapM (kinds : List String) :
    readKinds root stack node kinds = kinds.mapM (readKind root stack node) := by
  induction kinds with
  | nil =>
    rw [readKinds]
    rfl
  | cons kind rest ih => rw [readKinds, ih, List.mapM_cons]

/-- one property of an object -/
def readField (root : Json) (stack required : List String) (property : String × Json) : Traced (Field Hint) := do
  let h ← readSchema root stack property.2
  return ⟨property.1, h, required.contains property.1⟩

theorem readFields_eq_mapM (required : List String) (properties : List (String × Json)) :
    readFields root stack required properties = properties.mapM (readField root stack required) := by
  induction properties with
  | nil =>
    rw [readFields]
    rfl
  | cons p rest ih =>
    rw [readFields, ih, List.mapM_cons, readField, bind_assoc]
    simp only [pure_bind]

theorem readAll_value (schemas : List Json) :
    (readAll root stack schemas).value = schemas.map fun schema => (readSchema root stack schema).value := by
  rw [readAll_eq_mapM, Traced.mapM_value]

theorem readKinds_value (kinds : List String) :
    (readKinds root stack node kinds).value = kinds.map fun kind => (readKind root stack node kind).value := by
  rw [readKinds_eq_mapM, Traced.mapM_value]

theorem readFields_value (required : List String) (properties : List (String × Json)) :
    (readFields root stack required properties).value =
      properties.map fun p => ⟨p.1, (readSchema root stack p.2).value, required.contains p.1⟩ := by
  rw [readFields_eq_mapM, Traced.mapM_value]
  rfl

/-! ## Keywords -/

theorem lookup_of_tupleItems? {schemas : List Json} (h : tupleItems? node = some schemas) :
    node.lookup "prefixItems" = some (.array schemas) := by
  obtain ⟨operand, hlookup, hschemas⟩ := Option.bind_eq_some_iff.1 h
  cases operand with
  | array items =>
    cases hschemas
    exact hlookup
  | _ => cases hschemas

theorem lookup_of_properties? {properties : List (String × Json)} (h : properties? node = some properties) :
    node.lookup "properties" = some (.object properties) := by
  obtain ⟨operand, hlookup, hproperties⟩ := Option.bind_eq_some_iff.1 h
  cases operand with
  | object members =>
    cases hproperties
    exact hlookup
  | _ => cases hproperties

theorem readSchema_kinds {kinds : List String} (hof : Node.of node = .typed kinds) :
    (readSchema root stack (.object node)).value =
      ofKinds (kinds.map fun kind => (readKind root stack node kind).value) := by
  rw [readSchema]
  split <;> rename_i hcase <;> cases hcase.symm.trans hof
  rw [Traced.bind_value, Traced.pure_value, readKinds_value]

theorem readSchema_typed {kind : String} (hof : Node.of node = .typed [kind]) :
    (readSchema root stack (.object node)).value = (readKind root stack node kind).value :=
  readSchema_kinds hof

theorem readSchema_literal {values : List Json} (hof : Node.of node = .literal values) :
    (readSchema root stack (.object node)).value = .literal values := by
  rw [readSchema]
  split <;> rename_i hcase <;> cases hcase.symm.trans hof
  rfl

theorem readSchema_alternatives {schemas : List Json} (hof : Node.of node = .alternatives schemas) :
    (readSchema root stack (.object node)).value =
      ofAlternatives (schemas.map fun schema => (readSchema root stack schema).value) := by
  rw [readSchema]
  split <;> rename_i hcase <;> cases hcase.symm.trans hof
  rw [Traced.bind_value, Traced.pure_value, readAll_value]

theorem readSchema_part {schema : Json} (hof : Node.of node = .part schema) :
    readSchema root stack (.object node) = readSchema root stack schema := by
  rw [readSchema]
  split <;> rename_i hcase <;> cases hcase.symm.trans hof
  rfl

theorem readSchema_severalParts (hof : Node.of node = .severalParts) :
    (readSchema root stack (.object node)).value = .unsupported "allOf" := by
  rw [readSchema]
  split <;> rename_i hcase <;> cases hcase.symm.trans hof
  rfl

theorem readSchema_untyped (hof : Node.of node = .untyped) :
    (readSchema root stack (.object node)).value = .any := by
  rw [readSchema]
  split <;> rename_i hcase <;> cases hcase.symm.trans hof
  rfl

theorem readKind_array {schema : Json} (hitems : items? node = some schema) :
    (readKind root stack node "array").value = .array (some (readSchema root stack schema).value) := by
  rw [readKind]
  split
  · next schema' hcase =>
    cases hcase.symm.trans hitems
    rfl
  · next hcase => cases hcase.symm.trans hitems

theorem readKind_tuple {schemas : List Json} (hitems : items? node = none) (htuple : tupleItems? node = some schemas) :
    (readKind root stack node "array").value =
      (ofTuple (schemas.map fun schema => (readSchema root stack schema).value)).value := by
  rw [readKind]
  split
  · next schema hcase => cases hcase.symm.trans hitems
  · split
    · next schemas' hcase =>
      cases hcase.symm.trans htuple
      rw [Traced.bind_value, readAll_value]
    · next hcase => cases hcase.symm.trans htuple

theorem readKind_bareArray (hitems : items? node = none) (htuple : tupleItems? node = none) :
    (readKind root stack node "array").value = .array none := by
  rw [readKind]
  split
  · next schema hcase => cases hcase.symm.trans hitems
  · split
    · next schemas hcase => cases hcase.symm.trans htuple
    · rfl

theorem readKind_record {properties : List (String × Json)} (hproperties : properties? node = some properties) :
    (readKind root stack node "object").value =
      .record ⟨(node.lookup "title").bind Json.string?,
        properties.map fun p => ⟨p.1, (readSchema root stack p.2).value, (requiredNames node).contains p.1⟩,
        isClosed node⟩ := by
  rw [readKind]
  split
  · next properties' hcase =>
    cases hcase.symm.trans hproperties
    rw [Traced.bind_value, Traced.pure_value, readFields_value]
  · next hcase => cases hcase.symm.trans hproperties

theorem readKind_mapping (hproperties : properties? node = none) :
    (readKind root stack node "object").value =
      if isClosed node then .record ⟨none, [], true⟩
      else match values? node with
        | some schema => .map (some .string) (some (readSchema root stack schema).value)
        | none => .map none none := by
  rw [readKind]
  split
  · next properties hcase => cases hcase.symm.trans hproperties
  · split
    · rfl
    · split
      · next schema hcase =>
        rw [hcase]
        rfl
      · next hcase =>
        rw [hcase]
        rfl

/-- a node is not looked into for values that have no parts -/
theorem names_readKind_of_ne {kind : String} (harray : kind ≠ "array") (hobject : kind ≠ "object") :
    (readKind root stack node kind).value.names = [] := by
  unfold readKind
  split
  case h_6 => exact absurd rfl harray
  case h_7 => exact absurd rfl hobject
  all_goals rfl

/-! ## Induction -/

/-- the schemas inside a schema that reading may go on to -/
inductive Part : Json → Json → Prop
  | alternative {node : List (String × Json)} {variants : List Json} {part : Json}
    (hof : Node.of node = .alternatives variants) (hpart : part ∈ variants) : Part (.object node) part
  | sole {node : List (String × Json)} {part : Json} (hof : Node.of node = .part part) : Part (.object node) part
  | items {node : List (String × Json)} {part : Json} (h : items? node = some part) : Part (.object node) part
  | tupleItem {node : List (String × Json)} {parts : List Json} {part : Json} (h : tupleItems? node = some parts)
    (hpart : part ∈ parts) : Part (.object node) part
  | property {node properties : List (String × Json)} {p : String × Json} (h : properties? node = some properties)
    (hp : p ∈ properties) : Part (.object node) p.2
  | values {node : List (String × Json)} {part : Json} (h : values? node = some part) : Part (.object node) part

theorem Part.sizeOf_lt {schema part : Json} (h : Part schema part) : sizeOf part < sizeOf schema := by
  have hnode : ∀ node : List (String × Json), sizeOf node < sizeOf (Json.object node) := by
    intro node
    rw [Json.object.sizeOf_spec]
    omega
  cases h with
  | @alternative node variants part hof hpart =>
    have hinner := Node.inner_of_lt node
    rw [hof, Node.inner] at hinner
    exact Nat.lt_trans (List.sizeOf_lt_of_mem hpart) (Nat.lt_trans hinner (hnode node))
  | @sole node part hof =>
    have hinner := Node.inner_of_lt node
    rw [hof, Node.inner] at hinner
    exact Nat.lt_trans hinner (hnode node)
  | @items node part h => exact Nat.lt_trans (sizeOf_lt_of_filter h) (hnode node)
  | @tupleItem node parts part h hpart =>
    exact Nat.lt_trans (List.sizeOf_lt_of_mem hpart) (Nat.lt_trans (sizeOf_lt_of_tupleItems? h) (hnode node))
  | @property node properties p h hp =>
    have hless := Nat.lt_trans (List.sizeOf_lt_of_mem hp) (sizeOf_lt_of_properties? h)
    obtain ⟨name, part⟩ := p
    simp only [Prod.mk.sizeOf_spec, Json.object.sizeOf_spec] at hless ⊢
    omega
  | @values node part h => exact Nat.lt_trans (sizeOf_lt_of_filter h) (hnode node)

/-- What holds of a schema when it holds of every definition under one more of the names, and of the schemas inside
under the same names, holds of every schema. -/
theorem reading_induct (root : Json) {P : List String → Json → Prop}
    (step : ∀ stack schema, (∀ name ∈ expandable root, name ∉ stack → ∀ definition, P (name :: stack) definition) →
      (∀ part, Part schema part → P stack part) → P stack schema)
    (stack : List String) (schema : Json) : P stack schema :=
  step stack schema (fun name _hmem _hstack definition => reading_induct root step (name :: stack) definition)
    fun part _hpart => reading_induct root step stack part
termination_by (fresh (expandable root) stack, sizeOf schema, 0)
decreasing_by
  · exact Measure.fresher (fresh_cons_lt _hmem _hstack)
  · exact Measure.smaller _hpart.sizeOf_lt

end Hint

end ToolSchema
