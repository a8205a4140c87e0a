/-
The order by which expansions end.

A measure has three parts: how many names are still fresh, the size of what is at hand, and the rank of a step among
those of equal size. Each lemma is one way down.
-/
import ToolSchema.Fresh

namespace ToolSchema

/-- names still fresh, size of what is at hand, rank of the step -/
abbrev Measure := Nat × Nat × Nat

namespace Measure

/-- a name is used up -/
theorem fresher {f f' w w' t t' : Nat} (h : f' < f) : WellFoundedRelation.rel ((f', w', t') : Measure) (f, w, t) :=
  Prod.Lex.left _ _ h

/-- a part is taken, and no name is given back -/
theorem deeper {f f' w w' t t' : Nat} (hf : f' ≤ f) (hw : w' < w) :
    WellFoundedRelation.rel ((f', w', t') : Measure) (f, w, t) := by
  rcases Nat.lt_or_eq_of_le hf with h | rfl
  · exact Prod.Lex.left _ _ h
  · exact Prod.Lex.right _ (Prod.Lex.left _ _ hw)

/-- a part is taken -/
theorem smaller {f w w' t t' : Nat} (hw : w' < w) : WellFoundedRelation.rel ((f, w', t') : Measure) (f, w, t) :=
  Prod.Lex.right _ (Prod.Lex.left _ _ hw)

/-- a step of lower rank follows -/
theorem later {f w t t' : Nat} (ht : t' < t) : WellFoundedRelation.rel ((f, w, t') : Measure) (f, w, t) :=
  Prod.Lex.right _ (Prod.Lex.right _ ht)

end Measure

end ToolSchema
