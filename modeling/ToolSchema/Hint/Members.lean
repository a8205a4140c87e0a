/-
The members of a union, and how much of a hint there is.

`members` flattens nested unions. `weight` measures a hint so that its parts weigh less than the whole, and so do the
members of a union taken together (`weightAll_members_union`); a walk over hints and their members ends by it.
-/
import ToolSchema.Hint.Basic

namespace ToolSchema.Hint

/-! ## Members -/

mutual

/-- The members of nested unions from left to right. An optional type has the members of the inner type, then null. -/
def members : Hint → List Hint
  | .optional inner => members inner ++ [.null]
  | .union hints => allMembers hints
  | h => [h]

def allMembers : List Hint → List Hint
  | [] => []
  | h :: rest => members h ++ allMembers rest

end

def isNull : Hint → Bool
  | .null => true
  | _ => false

/-! ## Weight -/

mutual

def weight : Hint → Nat
  | .array (some item) => weight item + 1
  | .map none (some value) => weight value + 1
  | .map (some key) none => weight key + 1
  | .map (some key) (some value) => weight key + weight value + 1
  | .optional inner => weight inner + 4
  | .union hints => weightAll hints + 1
  | .record ⟨_, fields, _⟩ => weightFields fields + 1
  | _ => 1

def weightAll : List Hint → Nat
  | [] => 0
  | h :: rest => weight h + weightAll rest + 1

def weightFields : List (Field Hint) → Nat
  | [] => 0
  | f :: rest => weight f.hint + weightFields rest + 1

end

theorem weightAll_append (as bs : List Hint) : weightAll (as ++ bs) = weightAll as + weightAll bs := by
  induction as with
  | nil => simp only [List.nil_append, weightAll, Nat.zero_add]
  | cons a as ih =>
    simp only [List.cons_append, weightAll, ih]
    omega

theorem weight_lt_of_mem {h : Hint} {hints : List Hint} (hmem : h ∈ hints) : weight h < weightAll hints := by
  induction hints with
  | nil => simp at hmem
  | cons a as ih =>
    rcases List.mem_cons.1 hmem with rfl | hrest
    · simp only [weightAll]
      omega
    · have := ih hrest
      simp only [weightAll]
      omega

mutual

theorem weightAll_members_le (h : Hint) : weightAll h.members ≤ weight h + 1 := by
  cases h with
  | optional inner =>
    have := weightAll_members_le inner
    simp only [members, weightAll_append, weightAll, weight]
    omega
  | union hints =>
    have := weightAll_allMembers_le hints
    simp only [members, weight]
    omega
  | _ => simp [members, weightAll]

theorem weightAll_allMembers_le (hints : List Hint) : weightAll (allMembers hints) ≤ weightAll hints := by
  cases hints with
  | nil => simp [allMembers, weightAll]
  | cons h rest =>
    have h₁ := weightAll_members_le h
    have h₂ := weightAll_allMembers_le rest
    simp only [allMembers, weightAll_append, weightAll]
    omega

end

theorem weight_lt_of_mem_fields {f : Field Hint} {fields : List (Field Hint)} (hf : f ∈ fields) :
    weight f.hint < weightFields fields := by
  induction fields with
  | nil => simp at hf
  | cons g rest ih =>
    simp only [weightFields]
    rcases List.mem_cons.1 hf with rfl | hrest
    · omega
    · have := ih hrest
      omega

/-! ### Parts weigh less -/

theorem weight_item_lt (item : Hint) : weight item < weight (.array (some item)) := by
  rw [weight]
  omega

theorem weight_key_lt (key : Hint) (value : Option Hint) : weight key < weight (.map (some key) value) := by
  cases value <;> rw [weight] <;> omega

theorem weight_value_lt (key : Option Hint) (value : Hint) : weight value < weight (.map key (some value)) := by
  cases key <;> rw [weight] <;> omega

theorem weight_inner_lt (inner : Hint) : weight inner < weight (.optional inner) := by
  rw [weight]
  omega

theorem weight_alternative_lt {h : Hint} {hints : List Hint} (hmem : h ∈ hints) : weight h < weight (.union hints) :=
  Nat.lt_succ_of_lt (weight_lt_of_mem hmem)

theorem weightFields_lt (record : Record Hint) : weightFields record.fields < weight (.record record) :=
  Nat.lt_succ_self _

theorem weight_field_lt {f : Field Hint} {record : Record Hint} (hf : f ∈ record.fields) :
    weight f.hint < weight (.record record) :=
  Nat.lt_trans (weight_lt_of_mem_fields hf) (weightFields_lt record)

/-! ### Members weigh less -/

/-- an optional type weighs more than its members together -/
theorem weightAll_members_optional (inner : Hint) : weightAll (optional inner).members < weight (.optional inner) := by
  have := weightAll_members_le inner
  simp only [members, weightAll_append, weightAll, weight]
  omega

/-- a union weighs more than its members together -/
theorem weightAll_members_union (hints : List Hint) : weightAll (union hints).members < weight (.union hints) := by
  have := weightAll_allMembers_le hints
  simp only [members, weight]
  omega

theorem weight_lt_of_mem_optional {inner m : Hint} (hm : m ∈ (optional inner).members) :
    m.weight < weight (.optional inner) :=
  Nat.lt_trans (weight_lt_of_mem hm) (weightAll_members_optional inner)

theorem weight_lt_of_mem_union {hints : List Hint} {m : Hint} (hm : m ∈ (union hints).members) :
    m.weight < weight (.union hints) :=
  Nat.lt_trans (weight_lt_of_mem hm) (weightAll_members_union hints)

end ToolSchema.Hint
