/-
Hints up to the names of records.

`unnamed` takes the names off all records in a hint. Expanding a definition names a record only (`unnamed_withName`), and
alternatives and kinds are put together without a look at names (`unnamed_ofAlternatives`, `unnamed_ofKinds`). A tuple
is the exception: its items are compared with their names, so that it takes more than its items without names to know
what it is read as (`alike`, `unnamed_ofTuple`).
-/
import ToolSchema.Proofs.Hint.Names

namespace ToolSchema.Hint

mutual

/-- the hint without the names of its records -/
def unnamed : Hint → Hint
  | .array item => .array (optionUnnamed item)
  | .map key value => .map (optionUnnamed key) (optionUnnamed value)
  | .optional inner => .optional (unnamed inner)
  | .union hints => .union (allUnnamed hints)
  | .record ⟨_, fields, closed⟩ => .record ⟨none, fieldsUnnamed fields, closed⟩
  | h => h

def optionUnnamed : Option Hint → Option Hint
  | none => none
  | some h => some (unnamed h)

def allUnnamed : List Hint → List Hint
  | [] => []
  | h :: rest => unnamed h :: allUnnamed rest

def fieldsUnnamed : List (Field Hint) → List (Field Hint)
  | [] => []
  | ⟨name, h, required⟩ :: rest => ⟨name, unnamed h, required⟩ :: fieldsUnnamed rest

end

variable {hints hints' : List Hint}

theorem optionUnnamed_eq_map (item : Option Hint) : optionUnnamed item = item.map unnamed := by
  cases item <;> rfl

theorem allUnnamed_eq_map (hints : List Hint) : allUnnamed hints = hints.map unnamed := by
  induction hints with
  | nil => rfl
  | cons h rest ih => rw [allUnnamed, ih, List.map_cons]

theorem fieldsUnnamed_eq_map (fields : List (Field Hint)) :
    fieldsUnnamed fields = fields.map fun f => ⟨f.name, f.hint.unnamed, f.required⟩ := by
  induction fields with
  | nil => rfl
  | cons f rest ih => rw [fieldsUnnamed, ih, List.map_cons]

/-! ## Hints put together -/

theorem unnamed_withName (name : String) (h : Hint) : (withName name h).unnamed = h.unnamed := by
  cases h <;> rfl

theorem literals?_map_unnamed (hints : List Hint) :
    ofAlternatives.literals? (hints.map unnamed) = ofAlternatives.literals? hints := by
  induction hints with
  | nil => rfl
  | cons h rest ih =>
    cases h with
    | literal values =>
      have hvalues : (literal values).unnamed = .literal values := rfl
      rw [List.map_cons, hvalues, ofAlternatives.literals?, ofAlternatives.literals?, ih]
    | _ => rfl

theorem unnamed_ofAlternatives (hints : List Hint) :
    (ofAlternatives hints).unnamed = ofAlternatives (hints.map unnamed) := by
  match hints with
  | [] => rfl
  | [_] => rfl
  | first :: second :: rest =>
    have hliterals := literals?_map_unnamed (first :: second :: rest)
    rw [List.map_cons, List.map_cons] at hliterals ⊢
    simp only [ofAlternatives, hliterals]
    split
    · rfl
    · rw [unnamed, allUnnamed_eq_map, List.map_cons, List.map_cons]

theorem unnamed_ofKinds (hints : List Hint) : (ofKinds hints).unnamed = ofKinds (hints.map unnamed) := by
  match hints with
  | [] => rfl
  | [_] => rfl
  | first :: second :: rest =>
    have hunion : (Hint.union (first :: second :: rest)).unnamed = .union ((first :: second :: rest).map unnamed) := by
      rw [unnamed, allUnnamed_eq_map]
    exact hunion

/-! ## Tuples -/

/-- the items of a tuple are all of the type of the last one -/
def alike (hints : List Hint) : Bool :=
  hints.getLast?.all fun last => hints.dropLast.all (·.same last)

theorem ofTuple_value (hints : List Hint) :
    (ofTuple hints).value = if alike hints then .array hints.getLast? else .unsupported "tuple" := by
  rw [ofTuple, alike]
  cases hints.getLast? with
  | none => rfl
  | some last =>
    rw [Option.all_some]
    dsimp only
    split <;> rfl

/-- up to names, a tuple is what its items are, and whether these are alike -/
theorem unnamed_ofTuple (halike : alike hints = alike hints') (h : hints.map unnamed = hints'.map unnamed) :
    (ofTuple hints).value.unnamed = (ofTuple hints').value.unnamed := by
  rw [ofTuple_value, ofTuple_value, halike]
  split
  · rw [unnamed, unnamed, optionUnnamed_eq_map, optionUnnamed_eq_map, ← List.getLast?_map, ← List.getLast?_map, h]
  · rfl

end ToolSchema.Hint
