/-
Declarations of fields, of which the last one under a name counts.

`last?` gives the declaration that counts for a name, and `lasts` all that count, in their order. One declaration more
takes the place of the others of its name, in both (`last?_snoc`, `lasts_snoc`).
-/
import ToolSchema.Hint.Basic

namespace ToolSchema.Field

variable {α β : Type} {name : String} {f : Field α} {fields : List (Field α)}

/-- the declaration that counts for a name -/
def last? (name : String) (fields : List (Field α)) : Option (Field α) :=
  fields.reverse.find? (·.name == name)

theorem last?_snoc (name : String) (fields : List (Field α)) (f : Field α) :
    last? name (fields ++ [f]) = if f.name = name then some f else last? name fields := by
  rw [last?, List.reverse_append, List.reverse_singleton, List.singleton_append]
  by_cases h : f.name = name
  · rw [List.find?_cons_of_pos (by simpa using h), if_pos h]
  · rw [List.find?_cons_of_neg (by simpa using h), if_neg h, last?]

theorem mem_of_last? (h : last? name fields = some f) : f ∈ fields :=
  List.mem_reverse.1 (List.mem_of_find?_eq_some h)

theorem name_of_last? (h : last? name fields = some f) : f.name = name := by
  simpa using List.find?_some h

theorem last?_isSome (h : ∃ f ∈ fields, f.name = name) : (last? name fields).isSome = true := by
  obtain ⟨f, hf, hname⟩ := h
  rw [last?, List.find?_isSome]
  exact ⟨f, List.mem_reverse.2 hf, by simpa using hname⟩

/-- the declarations that count: those that none of their name follows -/
def lasts : List (Field α) → List (Field α)
  | [] => []
  | f :: rest => if rest.any (·.name == f.name) then lasts rest else f :: lasts rest

theorem lasts_snoc (fields : List (Field α)) (f : Field α) :
    lasts (fields ++ [f]) = (lasts fields).filter (·.name != f.name) ++ [f] := by
  induction fields with
  | nil => rfl
  | cons g rest ih =>
    rw [List.cons_append, lasts, lasts, List.any_append, List.any_cons, List.any_nil, Bool.or_false, ih]
    by_cases hany : rest.any (·.name == g.name) = true
    · rw [hany, Bool.true_or, if_pos rfl, if_pos rfl]
    · rw [Bool.not_eq_true] at hany
      rw [hany, Bool.false_or, if_neg Bool.false_ne_true]
      by_cases hname : f.name = g.name
      · rw [if_pos (beq_iff_eq.2 hname), List.filter_cons_of_neg (by simp [hname])]
      · rw [if_neg (by simpa using hname), List.filter_cons_of_pos (by simpa using Ne.symm hname), List.cons_append]

/-- the same field with another type -/
def withType (f : Field α) (type : β) : Field β :=
  ⟨f.name, type, f.required⟩

theorem last?_map (type : Field α → β) (name : String) (fields : List (Field α)) :
    last? name (fields.map fun f => f.withType (type f)) = (last? name fields).map fun f => f.withType (type f) := by
  rw [last?, ← List.map_reverse, List.find?_map]
  rfl

theorem lasts_map (type : Field α → β) (fields : List (Field α)) :
    lasts (fields.map fun f => f.withType (type f)) = (lasts fields).map fun f => f.withType (type f) := by
  induction fields with
  | nil => rfl
  | cons f rest ih =>
    have hany : ((rest.map fun f => f.withType (type f)).any fun g => g.name == (f.withType (type f)).name) =
        rest.any fun g => g.name == f.name := List.any_map
    rw [List.map_cons, lasts, lasts, ih, hany]
    split <;> rfl

end ToolSchema.Field
