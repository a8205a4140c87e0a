/-
Validity of a JSON value against a JSON Schema document.

`keywordAllows` is what one keyword of a node says about a value, given what the schemas inside the node say. A node
allows a value if each of its keywords does. A keyword that speaks of members or of items leaves all other values alone.

References make a document recursive. `validAt` follows at most a given number of steps from schema to schema and
allows nothing beyond them, and a value is `Valid` if it is valid from some number of steps on. That is the least fixed
point: a reference that leads back to itself for the same value allows nothing. `oneOf` counts the schemas that allow
the value, which is why one number of steps is not enough.
-/
import ToolSchema.Hint.OfSchema
import ToolSchema.Json.Double
import ToolSchema.Text.Basic

namespace ToolSchema

/-! ## Instances -/

namespace Json

/-- no fractional part: the value of a binary64 number is whole if its power of two divides its mantissa -/
def Number.isWhole : Number → Bool
  | .int _ => true
  | .float bits => (Double.ofBits bits).mantissa % Nat.pow 2 (-(Double.ofBits bits).exponent).toNat == 0

/-- the names that the keyword `type` has for a value -/
def typeNames : Json → List String
  | .null => ["null"]
  | .bool _ => ["boolean"]
  | .number n => if n.isWhole then ["integer", "number"] else ["number"]
  | .string _ => ["string"]
  | .array _ => ["array"]
  | .object _ => ["object"]

mutual

/-- null occurs nowhere in the value -/
def nullFree : Json → Bool
  | .null => false
  | .array items => allNullFree items
  | .object members => membersNullFree members
  | _ => true

def allNullFree : List Json → Bool
  | [] => true
  | v :: rest => nullFree v && allNullFree rest

def membersNullFree : List (String × Json) → Bool
  | [] => true
  | (_, v) :: rest => nullFree v && membersNullFree rest

end

theorem nullFree_of_mem_items {items : List Json} {v : Json} (h : (array items).nullFree = true) (hv : v ∈ items) :
    v.nullFree = true := by
  simp only [nullFree] at h
  induction items with
  | nil => simp at hv
  | cons w rest ih =>
    simp only [allNullFree, Bool.and_eq_true] at h
    rcases List.mem_cons.1 hv with rfl | hrest
    · exact h.1
    · exact ih h.2 hrest

theorem nullFree_of_mem_members {members : List (String × Json)} {m : String × Json}
    (h : (object members).nullFree = true) (hm : m ∈ members) : m.2.nullFree = true := by
  simp only [nullFree] at h
  induction members with
  | nil => simp at hm
  | cons w rest ih =>
    obtain ⟨k, v⟩ := w
    simp only [membersNullFree, Bool.and_eq_true] at h
    rcases List.mem_cons.1 hm with rfl | hrest
    · exact h.1
    · exact ih h.2 hrest

end Json

/-! ## Keywords -/

namespace Schema

/-- the schema that a reference points to: the whole document, or what its path leads to from there -/
def target? (root : Json) (reference : String) : Option Json :=
  match reference.toList with
  | ['#'] => some root
  | '#' :: '/' :: path =>
    (Text.splitOn (· == '/') path).foldlM (fun j token => j.get? (String.ofList (Hint.unescape token))) root
  | _ => none

/-- the keyword `properties` of the node lists the name -/
def declares (node : List (String × Json)) (name : String) : Bool :=
  ((node.lookup "properties").bind Json.object?).any (Entries.has name)

/-- what a keyword with its operand says about a value; `valid` is validity against the schemas inside -/
def keywordAllows (root : Json) (node : List (String × Json)) (valid : Json → Json → Bool) (v : Json) :
    String → Json → Bool
  | "$ref", .string reference => (target? root reference).any (valid · v)
  | "type", .string kind => v.typeNames.contains kind
  | "type", .array kinds => (kinds.filterMap Json.string?).any v.typeNames.contains
  | "const", value => value.same v
  | "enum", .array values => values.any (·.same v)
  | "anyOf", .array schemas => schemas.any (valid · v)
  | "oneOf", .array schemas => schemas.countP (valid · v) == 1
  | "allOf", .array schemas => schemas.all (valid · v)
  | "items", schema => (v.array?.getD []).all (valid schema)
  | "properties", .object properties =>
    properties.all fun p => (v.object?.getD []).all fun m => m.1 != p.1 || valid p.2 m.2
  | "required", .array names =>
    v.object?.all fun members => (names.filterMap Json.string?).all fun name => Entries.has name members
  | "additionalProperties", schema =>
    (v.object?.getD []).all fun m => declares node m.1 || valid schema m.2
  | _, _ => true

/-! ## Validity -/

/-- validity along at most `depth` steps from schema to schema -/
def validAt (root : Json) : Nat → Json → Json → Bool
  | 0, _, _ => false
  | _ + 1, .bool b, _ => b
  | depth + 1, .object node, v => node.all fun k => keywordAllows root node (validAt root depth) v k.1 k.2
  | _ + 1, _, _ => false

/-- it holds from some number of steps on -/
def Eventually (P : Nat → Prop) : Prop :=
  ∃ bound, ∀ depth, bound ≤ depth → P depth

/-- a value is valid against the document -/
def Valid (root v : Json) : Prop :=
  Eventually fun depth => validAt root depth root v = true

theorem validAt_object {root v : Json} {node : List (String × Json)} {depth : Nat} :
    validAt root (depth + 1) (.object node) v = true ↔
      ∀ k ∈ node, keywordAllows root node (validAt root depth) v k.1 k.2 = true := by
  simp only [validAt, List.all_eq_true]

/-- a valid value satisfies every keyword that the node can be asked for -/
theorem keywordAllows_of_lookup {root v operand : Json} {node : List (String × Json)} {depth : Nat} {key : String}
    (h : validAt root (depth + 1) (.object node) v = true) (hkey : node.lookup key = some operand) :
    keywordAllows root node (validAt root depth) v key operand = true := by
  obtain ⟨before, after, rfl, -⟩ := List.lookup_eq_some_iff.1 hkey
  exact validAt_object.1 h (key, operand) (by simp)

/-! ## From some number of steps on -/

namespace Eventually

variable {P Q : Nat → Prop}

theorem of_succ (h : ∀ depth, P (depth + 1)) : Eventually P := by
  refine ⟨1, fun depth hdepth => ?_⟩
  obtain ⟨depth, rfl⟩ := Nat.exists_eq_add_of_le' hdepth
  exact h depth

theorem mono (hP : Eventually P) (h : ∀ depth, P depth → Q depth) : Eventually Q := by
  obtain ⟨bound, hbound⟩ := hP
  exact ⟨bound, fun depth hdepth => h depth (hbound depth hdepth)⟩

/-- what follows one step later from what holds from some number of steps on -/
theorem step (hP : Eventually P) (h : ∀ depth, P depth → Q (depth + 1)) : Eventually Q := by
  obtain ⟨bound, hbound⟩ := hP
  refine ⟨bound + 1, fun depth hdepth => ?_⟩
  obtain ⟨depth, rfl⟩ := Nat.exists_eq_add_of_le' (Nat.le_of_add_left_le hdepth)
  exact h depth (hbound depth (by omega))

theorem and (hP : Eventually P) (hQ : Eventually Q) : Eventually fun depth => P depth ∧ Q depth := by
  obtain ⟨first, hfirst⟩ := hP
  obtain ⟨second, hsecond⟩ := hQ
  exact ⟨max first second, fun depth hdepth => ⟨hfirst depth (by omega), hsecond depth (by omega)⟩⟩

/-- for the entries of a list alike -/
theorem forall_mem {α : Type} {P : α → Nat → Prop} {l : List α} (h : ∀ a ∈ l, Eventually (P a)) :
    Eventually fun depth => ∀ a ∈ l, P a depth := by
  induction l with
  | nil => exact ⟨0, by simp⟩
  | cons a rest ih =>
    simp only [List.forall_mem_cons] at h ⊢
    exact h.1.and (ih h.2)

end Eventually

end Schema

end ToolSchema
