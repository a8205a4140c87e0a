/-
Names that are still to be met.

An expansion that adds each name to a list before it goes on, and stops at a name that is on the list, ends: what it may
still add is counted by `fresh`, which never grows (`fresh_cons_le`) and drops with every name that is added
(`fresh_cons_lt`).
-/
namespace ToolSchema

/-- how many of the names are not on the list -/
def fresh (names seen : List String) : Nat :=
  names.countP (· ∉ seen)

theorem fresh_append_le (names more seen : List String) : fresh names (more ++ seen) ≤ fresh names seen := by
  apply List.countP_mono_left
  intro n _ h
  simp only [List.mem_append, not_or, decide_eq_true_eq] at h
  simpa using h.2

theorem fresh_cons_le (names seen : List String) (name : String) : fresh names (name :: seen) ≤ fresh names seen :=
  fresh_append_le names [name] seen

theorem fresh_cons_lt {names seen : List String} {name : String} (hmem : name ∈ names) (hseen : name ∉ seen) :
    fresh names (name :: seen) < fresh names seen := by
  induction names with
  | nil => simp at hmem
  | cons n rest ih =>
    have hle := fresh_cons_le rest seen name
    simp only [fresh, List.countP_cons] at ih hle ⊢
    by_cases hn : n = name
    · subst hn
      rw [if_neg (by simp), if_pos (by simpa using hseen)]
      omega
    · have hrest : name ∈ rest := by
        rcases List.mem_cons.1 hmem with h | h
        · exact absurd h.symm hn
        · exact h
      have := ih hrest
      by_cases hs : n ∈ seen
      · rw [if_neg (by simp [hs]), if_neg (by simp [hs])]
        omega
      · rw [if_pos (by simp [hs, hn]), if_pos (by simp [hs])]
        omega

end ToolSchema
