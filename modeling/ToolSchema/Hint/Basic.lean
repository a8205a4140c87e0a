/-
Type hints: what the declaration of a parameter or a record field says about its values.

A hint may name a type that is registered elsewhere, or not at all; `Resolve` gives it its meaning. Here are the type,
the construction of records field by field, and three questions about a hint on its own: whether null is a value of it
(`isNullable`), whether a container without element type occurs in it (`hasBareGeneric`), and whether two hints say
the same (`same`).
-/
import ToolSchema.Json.Basic

namespace ToolSchema

/-- one field of a record; a field that is not required may be absent -/
structure Field (α : Type) where
  name : String
  hint : α
  required : Bool

/-- fields in order of declaration; a closed record admits no others, a record without a name is never recursive -/
structure Record (α : Type) where
  name : Option String
  fields : List (Field α)
  closed : Bool

inductive Hint where
  | null
  | string
  | integer
  | number
  | boolean
  | any
  /-- a list, set or variadic tuple; the element type may be missing -/
  | array (item : Option Hint)
  /-- a mapping; either type may be missing -/
  | map (key value : Option Hint)
  /-- the inner type, or null -/
  | optional (inner : Hint)
  | union (members : List Hint)
  /-- one of these values -/
  | literal (values : List Json)
  | record (record : Record Hint)
  /-- a type known by its name -/
  | named (name : String)
  /-- a type that no schema describes, by its label -/
  | unsupported (label : String)

instance : Inhabited Hint := ⟨.any⟩

namespace Hint

/-! ## Nullability -/

mutual

/-- null is a value of the type, as far as the hint itself tells -/
def isNullable : Hint → Bool
  | .null => true
  | .optional _ => true
  | .union members => anyNullable members
  | .literal values => values.any Json.isNull
  | _ => false

def anyNullable : List Hint → Bool
  | [] => false
  | h :: rest => isNullable h || anyNullable rest

end

/-! ## Bare containers -/

mutual

/-- a container without element type occurs somewhere in the hint -/
def hasBareGeneric : Hint → Bool
  | .array none => true
  | .array (some item) => hasBareGeneric item
  | .map _ none => true
  | .map none (some value) => hasBareGeneric value
  | .map (some key) (some value) => hasBareGeneric key || hasBareGeneric value
  | .optional inner => hasBareGeneric inner
  | .union members => anyBareGeneric members
  | .record ⟨_, fields, _⟩ => anyFieldBareGeneric fields
  | _ => false

def anyBareGeneric : List Hint → Bool
  | [] => false
  | h :: rest => hasBareGeneric h || anyBareGeneric rest

def anyFieldBareGeneric : List (Field Hint) → Bool
  | [] => false
  | f :: rest => hasBareGeneric f.hint || anyFieldBareGeneric rest

end

/-! ## Equality -/

mutual

/-- equality, where literal values are compared as JSON values -/
def same : Hint → Hint → Bool
  | .null, .null => true
  | .string, .string => true
  | .integer, .integer => true
  | .number, .number => true
  | .boolean, .boolean => true
  | .any, .any => true
  | .array a, .array b => sameOption a b
  | .map k v, .map k' v' => sameOption k k' && sameOption v v'
  | .optional a, .optional b => same a b
  | .union as, .union bs => sameAll as bs
  | .literal as, .literal bs => Json.sameItems as bs
  | .record ⟨name, fields, closed⟩, .record r => name == r.name && sameFields fields r.fields && closed == r.closed
  | .named a, .named b => a == b
  | .unsupported a, .unsupported b => a == b
  | _, _ => false
termination_by structural a => a

def sameOption : Option Hint → Option Hint → Bool
  | none, none => true
  | some a, some b => same a b
  | _, _ => false
termination_by structural a => a

def sameAll : List Hint → List Hint → Bool
  | [], [] => true
  | a :: as, b :: bs => same a b && sameAll as bs
  | _, _ => false
termination_by structural a => a

def sameFields : List (Field Hint) → List (Field Hint) → Bool
  | [], [] => true
  | a :: as, b :: bs => a.name == b.name && same a.hint b.hint && a.required == b.required && sameFields as bs
  | _, _ => false
termination_by structural a => a

end

end Hint

/-! ## Records -/

namespace Record

/-- an open record without fields -/
def empty (name : Option String) : Record Hint := ⟨name, [], false⟩

/-- add a field; it is required unless null is a value of it -/
def withField (name : String) (hint : Hint) (r : Record Hint) : Record Hint :=
  { r with fields := r.fields ++ [⟨name, hint, !hint.isNullable⟩] }

/-- add a field that may be absent -/
def withOptionalField (name : String) (hint : Hint) (r : Record Hint) : Record Hint :=
  { r with fields := r.fields ++ [⟨name, hint, false⟩] }

def withClosed (closed : Bool) (r : Record Hint) : Record Hint :=
  { r with closed := closed }

end Record

end ToolSchema
