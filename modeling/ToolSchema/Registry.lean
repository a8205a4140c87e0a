/-
Named types.

A registry maps names to hints and keeps the order in which names were first registered. Registering a name again
replaces its hint and is reported.
-/
import ToolSchema.Diagnostic
import ToolSchema.Hint.Basic

namespace ToolSchema

structure Registry where
  types : Entries Hint

namespace Registry

def empty : Registry := ⟨[]⟩

def get? (name : String) (r : Registry) : Option Hint :=
  r.types.lookup name

def contains (name : String) (r : Registry) : Bool :=
  r.types.has name

/-- registered names, oldest first -/
def names (r : Registry) : List String :=
  r.types.keys

/-- the registry after one registration, without the report -/
def put (name : String) (hint : Hint) (r : Registry) : Registry :=
  ⟨r.types.put name hint⟩

def register (name : String) (hint : Hint) (r : Registry) : Traced Registry := do
  if r.contains name then Traced.note (.replacedType name)
  return r.put name hint

/-- register in order -/
def registerAll (r : Registry) : List (String × Hint) → Traced Registry
  | [] => pure r
  | (name, hint) :: rest => do
    let r ← r.register name hint
    registerAll r rest

/-! ## Lookup -/

theorem get?_put (name k : String) (hint : Hint) (r : Registry) :
    (r.put name hint).get? k = if k = name then some hint else r.get? k :=
  Entries.lookup_put name k hint r.types

theorem register_value (name : String) (hint : Hint) (r : Registry) :
    (r.register name hint).value = r.put name hint := by
  unfold register
  split <;> rfl

theorem mem_names_of_get? {name : String} {hint : Hint} {r : Registry} (h : r.get? name = some hint) :
    name ∈ r.names := by
  rw [names, Entries.mem_keys_iff_has, Entries.has]
  simp only [get?] at h
  simp [h]

end Registry

end ToolSchema
