/-
The names left in a hint.

`names` lists them from left to right, however deep they lie. `free` leaves out those inside a record that has the
name itself, which resolution cuts, and the types of keys, which it does not look into.

Which names the pieces of a reading are put together from, the whole has as well: alternatives and kinds keep all of
them (`flatMap_ofAlternatives`, `flatMap_ofKinds`), a definition put in place keeps its own (`names_withName`), and a
tuple keeps those of its last item (`ofTuple_cases`).
-/
import ToolSchema.Hint.OfSchema

namespace ToolSchema.Hint

mutual

/-- the names that the hint leaves to others to define, in order -/
def names : Hint → List String
  | .array item => optionNames item
  | .map key value => optionNames key ++ optionNames value
  | .optional inner => names inner
  | .union hints => allNames hints
  | .record ⟨_, fields, _⟩ => fieldNames fields
  | .named name => [name]
  | _ => []

def optionNames : Option Hint → List String
  | none => []
  | some h => names h

def allNames : List Hint → List String
  | [] => []
  | h :: rest => names h ++ allNames rest

def fieldNames : List (Field Hint) → List String
  | [] => []
  | f :: rest => names f.hint ++ fieldNames rest

end

mutual

/-- the names that stand outside of the records that have them -/
def free : Hint → List String
  | .array item => optionFree item
  | .map _ value => optionFree value
  | .optional inner => free inner
  | .union hints => allFree hints
  | .record ⟨name, fields, _⟩ => (fieldsFree fields).filter fun n => name != some n
  | .named name => [name]
  | _ => []

def optionFree : Option Hint → List String
  | none => []
  | some h => free h

def allFree : List Hint → List String
  | [] => []
  | h :: rest => free h ++ allFree rest

def fieldsFree : List (Field Hint) → List String
  | [] => []
  | f :: rest => free f.hint ++ fieldsFree rest

end

/-- the names that are free in the fields of a record, whatever its own name is; of other hints, those free in them -/
def freeInside : Hint → List String
  | .record r => fieldsFree r.fields
  | h => h.free

/-! ## Lists -/

theorem allNames_eq_flatMap (hints : List Hint) : allNames hints = hints.flatMap names := by
  induction hints with
  | nil => rfl
  | cons h rest ih => rw [allNames, ih, List.flatMap_cons]

theorem fieldNames_eq_flatMap (fields : List (Field Hint)) :
    fieldNames fields = fields.flatMap fun f => f.hint.names := by
  induction fields with
  | nil => rfl
  | cons f rest ih => rw [fieldNames, ih, List.flatMap_cons]

theorem names_subset_of_mem_union {hints : List Hint} {h : Hint} (hmem : h ∈ hints) : h.names ⊆ (union hints).names := by
  rw [names, allNames_eq_flatMap]
  exact fun name hname => List.mem_flatMap.2 ⟨h, hmem, hname⟩

theorem names_subset_of_mem_fields {record : Record Hint} {f : Field Hint} (hf : f ∈ record.fields) :
    f.hint.names ⊆ (Hint.record record).names := by
  obtain ⟨own, fields, closed⟩ := record
  rw [names, fieldNames_eq_flatMap]
  exact fun name hname => List.mem_flatMap.2 ⟨f, hf, hname⟩

theorem allFree_eq_flatMap (hints : List Hint) : allFree hints = hints.flatMap free := by
  induction hints with
  | nil => rfl
  | cons h rest ih => rw [allFree, ih, List.flatMap_cons]

theorem fieldsFree_eq_flatMap (fields : List (Field Hint)) :
    fieldsFree fields = fields.flatMap fun f => f.hint.free := by
  induction fields with
  | nil => rfl
  | cons f rest ih => rw [fieldsFree, ih, List.flatMap_cons]

/-! ## Free names -/

mutual

/-- what is free in a hint is left in it -/
theorem free_sublist (h : Hint) : h.free.Sublist h.names := by
  cases h with
  | array item => exact optionFree_sublist item
  | map key value => exact List.sublist_append_of_sublist_right (optionFree_sublist value)
  | optional inner => exact free_sublist inner
  | union hints => exact allFree_sublist hints
  | record r =>
    obtain ⟨name, fields, closed⟩ := r
    exact List.filter_sublist.trans (fieldsFree_sublist fields)
  | _ => exact List.Sublist.refl _

theorem optionFree_sublist (item : Option Hint) : (optionFree item).Sublist (optionNames item) := by
  cases item with
  | none => exact List.Sublist.refl _
  | some h => exact free_sublist h

theorem allFree_sublist (hints : List Hint) : (allFree hints).Sublist (allNames hints) := by
  cases hints with
  | nil => exact List.Sublist.refl _
  | cons h rest => exact (free_sublist h).append (allFree_sublist rest)

theorem fieldsFree_sublist (fields : List (Field Hint)) : (fieldsFree fields).Sublist (fieldNames fields) := by
  cases fields with
  | nil => exact List.Sublist.refl _
  | cons f rest => exact (free_sublist f.hint).append (fieldsFree_sublist rest)

end

theorem free_subset_freeInside (h : Hint) : h.free ⊆ h.freeInside := by
  cases h with
  | record r => exact List.filter_sublist.subset
  | _ => exact List.Subset.refl _

theorem freeInside_subset_names (h : Hint) : h.freeInside ⊆ h.names := by
  cases h with
  | record r => exact (fieldsFree_sublist r.fields).subset
  | _ => exact (free_sublist _).subset

/-! ## Hints put together -/

theorem names_withName (name : String) (h : Hint) : (withName name h).names = h.names := by
  cases h <;> rfl

theorem freeInside_withName (name : String) (h : Hint) : (withName name h).freeInside = h.freeInside := by
  cases h <;> rfl

section

variable {α : Type} {f : Hint → List α}

theorem flatMap_of_literals? {hints : List Hint} {values : List Json} (hliteral : ∀ values, f (.literal values) = [])
    (h : ofAlternatives.literals? hints = some values) : hints.flatMap f = [] := by
  induction hints generalizing values with
  | nil => rfl
  | cons hint rest ih =>
    cases hint with
    | literal first =>
      rw [ofAlternatives.literals?, Option.map_eq_some_iff] at h
      obtain ⟨others, hothers, -⟩ := h
      rw [List.flatMap_cons, hliteral, ih hothers, List.append_nil]
    | _ => cases h

/-- what is listed of unions member by member, and of literals not at all, is listed of alternatives one by one -/
theorem flatMap_ofAlternatives (hliteral : ∀ values, f (.literal values) = [])
    (hunion : ∀ hints, f (.union hints) = hints.flatMap f) (hints : List Hint) :
    f (ofAlternatives hints) = hints.flatMap f := by
  match hints with
  | [] => exact hunion []
  | [h] => rw [ofAlternatives, List.flatMap_singleton]
  | first :: second :: rest =>
    simp only [ofAlternatives]
    split
    · next values hvalues => rw [hliteral, flatMap_of_literals? hliteral hvalues]
    · rw [hunion]

theorem flatMap_ofKinds (hunion : ∀ hints, f (.union hints) = hints.flatMap f) (hints : List Hint) :
    f (ofKinds hints) = hints.flatMap f := by
  match hints with
  | [] => exact hunion []
  | [h] => rw [ofKinds, List.flatMap_singleton]
  | first :: second :: rest => exact hunion _

end

theorem names_ofAlternatives (hints : List Hint) : (ofAlternatives hints).names = allNames hints := by
  rw [allNames_eq_flatMap]
  exact flatMap_ofAlternatives (fun _ => rfl) allNames_eq_flatMap hints

theorem free_ofAlternatives (hints : List Hint) : (ofAlternatives hints).free = allFree hints := by
  rw [allFree_eq_flatMap]
  exact flatMap_ofAlternatives (fun _ => rfl) allFree_eq_flatMap hints

theorem names_ofKinds (hints : List Hint) : (ofKinds hints).names = allNames hints := by
  rw [allNames_eq_flatMap]
  exact flatMap_ofKinds allNames_eq_flatMap hints

/-- no record is made of several alternatives -/
theorem freeInside_ofAlternatives {hints : List Hint} (hne : hints.length ≠ 1) :
    (ofAlternatives hints).freeInside = (ofAlternatives hints).free := by
  match hints, hne with
  | [], _ => rfl
  | first :: second :: rest, _ =>
    simp only [ofAlternatives]
    split <;> rfl

theorem freeInside_ofKinds_subset (hints : List Hint) : (ofKinds hints).freeInside ⊆ hints.flatMap freeInside := by
  match hints with
  | [] => exact List.Subset.refl _
  | [h] => exact List.subset_append_left _ _
  | first :: second :: rest =>
    intro name hname
    have hfree : name ∈ (first :: second :: rest).flatMap free := by
      rw [← allFree_eq_flatMap]
      exact hname
    obtain ⟨h, hmem, hname⟩ := List.mem_flatMap.1 hfree
    exact List.mem_flatMap.2 ⟨h, hmem, free_subset_freeInside h hname⟩

/-- a tuple has the item type of its last item, or none of its items matters -/
theorem ofTuple_cases (hints : List Hint) :
    (∃ last ∈ hints, (ofTuple hints).value = .array (some last)) ∨ (ofTuple hints).value.names = [] := by
  rw [ofTuple]
  cases hlast : hints.getLast? with
  | none => exact .inr rfl
  | some last =>
    dsimp only
    split
    · exact .inl ⟨last, List.mem_of_getLast? hlast, rfl⟩
    · exact .inr rfl

theorem names_ofTuple (hints : List Hint) : (ofTuple hints).value.names.Sublist (allNames hints) := by
  rcases ofTuple_cases hints with ⟨last, hmem, hvalue⟩ | hnone
  · obtain ⟨before, after, rfl⟩ := List.append_of_mem hmem
    rw [hvalue, allNames_eq_flatMap, List.flatMap_append, List.flatMap_cons]
    exact List.sublist_append_of_sublist_right (List.sublist_append_left _ _)
  · rw [hnone]
    exact List.nil_sublist _

end ToolSchema.Hint
