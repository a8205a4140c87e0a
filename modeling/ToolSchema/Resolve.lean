/-
Resolution of hints against a registry.

`resolve` never fails. What no schema can describe becomes `unknown`, with a warning; a type that is met again while
it is being expanded is cut there. `seen` holds the names under expansion on the way from the root to the hint at
hand, so that two references side by side to one type both resolve and only true cycles are cut.

Resolution ends because expanding a registered name uses up one of the names that are still fresh, and every other
step goes to hints of less weight.
-/
import ToolSchema.Descriptor
import ToolSchema.Hint.Members
import ToolSchema.Measure
import ToolSchema.Registry

namespace ToolSchema

/-! ## Keys and literals -/

/-- keys of this type are strings, or may be -/
def Hint.isStringKey : Hint → Bool
  | .string => true
  | .any => true
  | .literal values => values.all Json.isString
  | _ => false

/-- the values that are not among those before them -/
def distinctValues (before : List Json) : List Json → List Json
  | [] => []
  | v :: rest => if before.any (·.same v) then distinctValues before rest else v :: distinctValues (before ++ [v]) rest

/-- the enumeration of some scalar values -/
def resolveLiteral (values : List Json) : Traced Descriptor := do
  if values.isEmpty then
    Traced.note .emptyLiteral
    return .unknown
  match values.find? (!·.isScalar) with
  | some value =>
    Traced.note (.literalNotScalar value)
    return .unknown
  | none => return .enum (distinctValues [] values)

/-! ## Cuts -/

/-- an unknown type in place of one that is already being expanded -/
def cut (name : String) : Traced Descriptor := do
  Traced.note (.recursionCut name)
  return .unknown

/-- The record that a reference by this name stands for itself: one that is registered without a name of its own, or
under its own name. Any other hint is a type beside the reference. -/
def Hint.recordOf? (name : String) : Hint → Option (Record Hint)
  | .record r => if r.name.all (· == name) then some r else none
  | _ => none

/-- a mapping whose keys cannot be strings -/
def notAMapping : Traced Descriptor := do
  Traced.note .keysNotStrings
  return .unknown

/-! ## Resolution -/

mutual

def resolve (r : Registry) (seen : List String) (h : Hint) : Traced Descriptor :=
  match h with
  | .null => pure (.primitive .null)
  | .string => pure (.primitive .string)
  | .integer => pure (.primitive .integer)
  | .number => pure (.primitive .number)
  | .boolean => pure (.primitive .boolean)
  | .any => pure .unknown
  | .array none => pure (.array .unknown)
  | .array (some item) => do
    let d ← resolve r seen item
    return .array d
  | .map key none => if key.all Hint.isStringKey then pure (.object .empty) else notAMapping
  | .map none (some value) => do
    let d ← resolve r seen value
    return .object ⟨[], [], .values d⟩
  | .map (some key) (some value) =>
    if key.isStringKey then do
      let d ← resolve r seen value
      return .object ⟨[], [], .values d⟩
    else notAMapping
  | .optional inner => resolveUnion r seen (Hint.optional inner).members
  | .union hints => resolveUnion r seen (Hint.union hints).members
  | .literal values => resolveLiteral values
  | .record ⟨none, fields, closed⟩ => resolveFields r seen (.opening closed) fields
  | .record ⟨some name, fields, closed⟩ =>
    if name ∈ seen then cut name else resolveFields r (name :: seen) (.opening closed) fields
  | .named name =>
    if _hseen : name ∈ seen then cut name
    else
      match _hget : r.get? name with
      | none => do
        Traced.note (.unresolvedReference name)
        return .unknown
      | some hint =>
        match hint.recordOf? name with
        | some record => resolveFields r (name :: seen) (.opening record.closed) record.fields
        | none => resolve r (name :: seen) hint
  | .unsupported label => do
    Traced.note (.noSchemaEquivalent label)
    return .unknown
termination_by (fresh r.names seen, h.weight, 0)
decreasing_by
  · exact Measure.smaller (Hint.weight_item_lt item)
  · exact Measure.smaller (Hint.weight_value_lt none value)
  · exact Measure.smaller (Hint.weight_value_lt (some key) value)
  · exact Measure.smaller (Hint.weightAll_members_optional inner)
  · exact Measure.smaller (Hint.weightAll_members_union hints)
  · exact Measure.smaller (Hint.weightFields_lt ⟨none, fields, closed⟩)
  · exact Measure.deeper (fresh_cons_le _ _ _) (Hint.weightFields_lt ⟨some name, fields, closed⟩)
  · exact Measure.fresher (fresh_cons_lt (Registry.mem_names_of_get? _hget) _hseen)
  · exact Measure.fresher (fresh_cons_lt (Registry.mem_names_of_get? _hget) _hseen)

/-- A union by its flattened members. One member beside null stands for the whole: that null is possible is left to
whether the value is required. -/
def resolveUnion (r : Registry) (seen : List String) (members : List Hint) : Traced Descriptor :=
  match _h : members.filter (!·.isNull) with
  | [] =>
    if members.isEmpty then do
      Traced.note .emptyUnion
      return .unknown
    else pure (.primitive .null)
  | [member] => resolve r seen member
  | _ :: _ :: _ => do
    let ds ← resolveAll r seen members
    return .ofVariants ds
termination_by (fresh r.names seen, Hint.weightAll members, 1)
decreasing_by
  · have hmem : member ∈ members.filter (!·.isNull) := _h ▸ List.mem_singleton_self member
    exact Measure.smaller (Hint.weight_lt_of_mem (List.mem_filter.1 hmem).1)
  · exact Measure.later (by decide)

def resolveAll (r : Registry) (seen : List String) : List Hint → Traced (List Descriptor)
  | [] => pure []
  | h :: rest => do
    let d ← resolve r seen h
    let ds ← resolveAll r seen rest
    return d :: ds
termination_by hints => (fresh r.names seen, Hint.weightAll hints, 0)
decreasing_by
  · exact Measure.smaller (by simp only [Hint.weightAll]; omega)
  · exact Measure.smaller (by simp only [Hint.weightAll]; omega)

/-- declare the fields one after another; a name that is declared already is reported -/
def resolveFields (r : Registry) (seen : List String) (shape : Shape Descriptor) : List (Field Hint) → Traced Descriptor
  | [] => pure (.object shape)
  | f :: rest => do
    let d ← resolve r seen f.hint
    if shape.declares f.name then Traced.note (.duplicateField f.name)
    resolveFields r seen (shape.declare f.name d f.required) rest
termination_by fields => (fresh r.names seen, Hint.weightFields fields, 0)
decreasing_by
  · exact Measure.smaller (by simp only [Hint.weightFields]; omega)
  · exact Measure.smaller (by simp only [Hint.weightFields]; omega)

end

/-- the type of a hint on its own -/
def Hint.descriptor (r : Registry) (h : Hint) : Descriptor :=
  (resolve r [] h).value

end ToolSchema
