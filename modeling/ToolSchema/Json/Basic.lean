/-
JSON values whose objects keep the order of their members.

A number is either a whole number or a binary64 value, given by its bits; `1` and `1.0` are two values. `same` is the
equality that the program goes by: both zeros of binary64 are one value, and the order of an object's members does not
matter. Distinct keys are not part of the type; `Json.Parser` builds only objects that have them.
-/
import ToolSchema.Entries

namespace ToolSchema

/-- a whole number, or the bits of a binary64 value -/
inductive Json.Number where
  | int (value : Int)
  | float (bits : UInt64)
  deriving DecidableEq

inductive Json where
  | null
  | bool (value : Bool)
  | number (value : Json.Number)
  | string (value : String)
  | array (items : List Json)
  | object (members : List (String × Json))

namespace Json

instance : Inhabited Json := ⟨.null⟩

/-! ## Equality -/

/-- a binary64 zero of either sign: every bit but the sign is clear -/
def Number.isZero (bits : UInt64) : Bool :=
  bits <<< 1 == 0

/-- numbers of one kind and value; the two zeros are one -/
def Number.same : Number → Number → Bool
  | .int a, .int b => a == b
  | .float a, .float b => a == b || (isZero a && isZero b)
  | _, _ => false

mutual

/-- equality up to the order of members and the sign of zero -/
def same : Json → Json → Bool
  | .null, .null => true
  | .bool a, .bool b => a == b
  | .number a, .number b => a.same b
  | .string a, .string b => a == b
  | .array as, .array bs => sameItems as bs
  | .object as, .object bs => as.length == bs.length && sameMembers as bs
  | _, _ => false

def sameItems : List Json → List Json → Bool
  | [], [] => true
  | a :: as, b :: bs => same a b && sameItems as bs
  | _, _ => false

/-- every member of the first list has a counterpart under its key in the second -/
def sameMembers : List (String × Json) → List (String × Json) → Bool
  | [], _ => true
  | (k, a) :: as, bs =>
    (match bs.lookup k with
      | some b => same a b
      | none => false) && sameMembers as bs

end

/-! ## Views -/

def isNull : Json → Bool
  | .null => true
  | _ => false

def isString : Json → Bool
  | .string _ => true
  | _ => false

/-- neither a list nor an object -/
def isScalar : Json → Bool
  | .array _ => false
  | .object _ => false
  | _ => true

def string? : Json → Option String
  | .string s => some s
  | _ => none

def array? : Json → Option (List Json)
  | .array items => some items
  | _ => none

def bool? : Json → Option Bool
  | .bool b => some b
  | _ => none

def object? : Json → Option (List (String × Json))
  | .object members => some members
  | _ => none

/-- the member under a key; nothing if there is none, or if this is not an object -/
def get? (key : String) : Json → Option Json
  | .object members => members.lookup key
  | _ => none

/-- the member under a key, null where there is none -/
def getD (key : String) (j : Json) : Json :=
  (j.get? key).getD .null

/-- a list of strings as a value -/
def ofStrings (names : List String) : Json :=
  .array (names.map .string)

/-- a missing string is null -/
def ofString? : Option String → Json
  | some s => .string s
  | none => .null

/-- The members of a value that stands for a structure with these keys. An object gives them by name, missing ones as
`none`; a list gives all of them by position. -/
def members? (names : List String) : Json → Option (List (Option Json))
  | .object members => some (names.map fun name => members.lookup name)
  | .array items => if items.length = names.length then some (items.map some) else none
  | _ => none

/-- The members of a value that stands for a structure whose members may all be missing: by name from an object, and
from a list as far as it goes. -/
def optionalMembers? (names : List String) : Json → Option (List (Option Json))
  | .object members => some (names.map fun name => members.lookup name)
  | .array items =>
    if items.length ≤ names.length then
      some (items.map some ++ List.replicate (names.length - items.length) none)
    else none
  | _ => none

/-- the tag of a case without data: a string, or an object with null under the tag -/
def tag? : Json → Option String
  | .string s => some s
  | .object [(s, .null)] => some s
  | _ => none

/-! ## Size of parts -/

theorem sizeOf_lt_of_lookup {key : String} {members : List (String × Json)} {j : Json}
    (h : members.lookup key = some j) : sizeOf j < sizeOf members := by
  induction members with
  | nil => simp at h
  | cons e rest ih =>
    obtain ⟨k, v⟩ := e
    by_cases hk : key = k
    · simp only [List.lookup_cons, hk, BEq.rfl, Option.some.injEq] at h
      subst h
      simp only [List.cons.sizeOf_spec, Prod.mk.sizeOf_spec]
      omega
    · have hk' : (key == k) = false := by simp [hk]
      simp only [List.lookup_cons, hk'] at h
      have := ih h
      simp only [List.cons.sizeOf_spec]
      omega

theorem sizeOf_lt_of_members? {names : List String} {j part : Json} {parts : List (Option Json)}
    (h : j.members? names = some parts) (hp : some part ∈ parts) : sizeOf part < sizeOf j := by
  cases j with
  | object members =>
    simp only [members?, Option.some.injEq] at h
    subst h
    obtain ⟨key, -, hk⟩ := List.mem_map.1 hp
    have := sizeOf_lt_of_lookup hk
    simp only [object.sizeOf_spec]
    omega
  | array items =>
    simp only [members?] at h
    split at h
    · simp only [Option.some.injEq] at h
      subst h
      simp only [List.mem_map, Option.some.injEq, exists_eq_right] at hp
      have := List.sizeOf_lt_of_mem hp
      simp only [array.sizeOf_spec]
      omega
    · simp at h
  | _ => simp [members?] at h

theorem sizeOf_lookup_lt (key : String) (members : List (String × Json)) :
    sizeOf (members.lookup key) < 1 + sizeOf members := by
  cases h : members.lookup key with
  | none => cases members <;> simp only [Option.none.sizeOf_spec, List.nil.sizeOf_spec, List.cons.sizeOf_spec] <;> omega
  | some j =>
    have := sizeOf_lt_of_lookup h
    simp only [Option.some.sizeOf_spec]
    omega

end Json

end ToolSchema
