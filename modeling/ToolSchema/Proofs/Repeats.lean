/-
Lists without repeats, where a relation says what counts as a repeat.

`pushNew` adds a value unless an earlier one is the same; a run of it collects the values that are new when they come.
- `mem_of_mem_collect`: nothing else gets in.
- `mem_collect_or_same`: what stays out has a representative.
- `pairwise_collect`: no value is a repeat of an earlier one.
- `collect_eq_append`: values without repeats are all kept.
- `collect_append_of_subset`: what was collected once adds nothing when it comes again.
- `collect_flatMap_collect`: where repeats of repeats are repeats, it does not matter whether they are left out of parts
  of the list before they are left out of the whole.
The variants of a union (`Descriptor.ofVariants`) and the values of an enumeration (`distinctValues_eq_collect`) are
collected so.
-/
import ToolSchema.Resolve

namespace ToolSchema

section

variable {α : Type} {same : α → α → Bool} {before l : List α} {a : α}

/-- add a value unless one of the list is the same -/
def pushNew (same : α → α → Bool) (l : List α) (a : α) : List α :=
  if l.any (same · a) then l else l ++ [a]

/-- add the values that are new, one after another -/
def collect (same : α → α → Bool) (before l : List α) : List α :=
  l.foldl (pushNew same) before

theorem collect_cons : collect same before (a :: l) = collect same (pushNew same before a) l := rfl

theorem mem_of_mem_pushNew {x : α} (h : x ∈ pushNew same l a) : x ∈ l ∨ x = a := by
  unfold pushNew at h
  split at h
  · exact .inl h
  · simpa using h

theorem mem_pushNew_of_mem {x : α} (h : x ∈ l) : x ∈ pushNew same l a := by
  unfold pushNew
  split
  · exact h
  · exact List.mem_append_left _ h

theorem mem_of_mem_collect {x : α} (h : x ∈ collect same before l) : x ∈ before ∨ x ∈ l := by
  induction l generalizing before with
  | nil => exact .inl h
  | cons a rest ih =>
    rcases ih h with hx | hx
    · rcases mem_of_mem_pushNew hx with hx | rfl
      · exact .inl hx
      · exact .inr List.mem_cons_self
    · exact .inr (List.mem_cons_of_mem a hx)

theorem mem_collect_of_mem {x : α} (h : x ∈ before) : x ∈ collect same before l := by
  induction l generalizing before with
  | nil => exact h
  | cons a rest ih => exact ih (mem_pushNew_of_mem h)

theorem mem_collect_or_same (ha : a ∈ l) : a ∈ collect same before l ∨ ∃ x ∈ collect same before l, same x a = true := by
  induction l generalizing before with
  | nil => simp at ha
  | cons b rest ih =>
    rcases List.mem_cons.1 ha with rfl | ha
    · rw [collect_cons]
      by_cases hany : before.any (same · a) = true
      · obtain ⟨x, hx, hsame⟩ := List.any_eq_true.1 hany
        exact .inr ⟨x, mem_collect_of_mem (mem_pushNew_of_mem hx), hsame⟩
      · exact .inl (mem_collect_of_mem (by simp [pushNew, hany]))
    · exact ih ha

theorem pairwise_pushNew (h : before.Pairwise fun x y => same x y = false) :
    (pushNew same before a).Pairwise fun x y => same x y = false := by
  unfold pushNew
  split
  · exact h
  · next hany =>
    rw [List.pairwise_append]
    refine ⟨h, List.pairwise_singleton _ _, fun x hx y hy => ?_⟩
    rw [List.mem_singleton.1 hy]
    simpa using fun hsame => hany (List.any_eq_true.2 ⟨x, hx, hsame⟩)

theorem pairwise_collect (h : before.Pairwise fun x y => same x y = false) :
    (collect same before l).Pairwise fun x y => same x y = false := by
  induction l generalizing before with
  | nil => exact h
  | cons a rest ih => exact ih (pairwise_pushNew h)

theorem collect_ne_nil (h : l ≠ []) : collect same before l ≠ [] := by
  obtain ⟨a, rest, rfl⟩ := List.exists_cons_of_ne_nil h
  have ha : a ∈ a :: rest := List.mem_cons_self
  rcases mem_collect_or_same ha with h | ⟨x, h, -⟩
  · exact List.ne_nil_of_mem h
  · exact List.ne_nil_of_mem h

/-- where no value is a repeat, all of them are kept -/
theorem collect_eq_append (h : (before ++ l).Pairwise fun x y => same x y = false) :
    collect same before l = before ++ l := by
  induction l generalizing before with
  | nil => exact (List.append_nil before).symm
  | cons a rest ih =>
    have hnew : ∀ x ∈ before, same x a = false := fun x hx =>
      (List.pairwise_append.1 h).2.2 x hx a List.mem_cons_self
    have hpush : pushNew same before a = before ++ [a] := by
      refine if_neg fun hany => ?_
      obtain ⟨x, hx, hsame⟩ := List.any_eq_true.1 hany
      rw [hnew x hx] at hsame
      cases hsame
    rw [List.append_cons] at h ⊢
    rw [collect_cons, hpush, ih h]

/-- repeats add nothing -/
theorem collect_eq_self (h : ∀ a ∈ l, ∃ x ∈ before, same x a = true) : collect same before l = before := by
  induction l with
  | nil => rfl
  | cons a rest ih =>
    rw [List.forall_mem_cons] at h
    rw [collect_cons, pushNew, if_pos (List.any_eq_true.2 h.1), ih h.2]

theorem collect_append (as bs : List α) : collect same before (as ++ bs) = collect same (collect same before as) bs :=
  List.foldl_append

theorem prefix_collect {rest : List α} : before <+: collect same before rest := by
  induction rest generalizing before with
  | nil => exact List.prefix_refl before
  | cons a rest ih =>
    have hpush : before <+: pushNew same before a := by
      unfold pushNew
      split
      · exact List.prefix_refl before
      · exact List.prefix_append before [a]
    exact hpush.trans ih

theorem exists_same_of_mem (hself : same a a = true) (ha : a ∈ l) :
    ∃ x ∈ collect same before l, same x a = true := by
  have hcollected : a ∈ collect same before l ∨ ∃ x ∈ collect same before l, same x a = true := mem_collect_or_same ha
  rcases hcollected with hmem | hsame
  · exact ⟨a, hmem, hself⟩
  · exact hsame

/-- what was collected once adds nothing when it comes again -/
theorem collect_append_of_subset {as bs : List α} (hrefl : ∀ b ∈ bs, same b b = true) (h : bs ⊆ as) :
    collect same before (as ++ bs) = collect same before as := by
  rw [collect_append]
  exact collect_eq_self fun b hb => exists_same_of_mem (hrefl b hb) (h hb)

/-- parts that only repeat what is there already can be left out -/
theorem collect_flatMap_filter {β : Type} {l : List β} {f : β → List α} {keep : β → Bool}
    (h : ∀ b ∈ l, keep b = false → ∀ a ∈ f b, ∃ x ∈ before, same x a = true) :
    collect same before ((l.filter keep).flatMap f) = collect same before (l.flatMap f) := by
  induction l generalizing before with
  | nil => rfl
  | cons b rest ih =>
    rw [List.forall_mem_cons] at h
    cases hb : keep b with
    | false =>
      rw [List.filter_cons_of_neg (by simp [hb]), List.flatMap_cons, collect_append, collect_eq_self (h.1 hb), ih h.2]
    | true =>
      rw [List.filter_cons_of_pos hb, List.flatMap_cons, List.flatMap_cons, collect_append, collect_append]
      refine ih fun b' hb' hkeep a ha => ?_
      obtain ⟨x, hx, hsame⟩ := h.2 b' hb' hkeep a ha
      exact ⟨x, mem_collect_of_mem hx, hsame⟩

/-! ### Repeats of repeats -/

section

variable {S : α → Prop} (htrans : ∀ x y z : α, S x → same x y = true → same y z = true → same x z = true)

include htrans

theorem collect_pushNew (hS : ∀ x ∈ before ++ l, S x) :
    collect same before (pushNew same l a) = pushNew same (collect same before l) a := by
  by_cases hany : l.any (same · a) = true
  · obtain ⟨x, hx, hsame⟩ := List.any_eq_true.1 hany
    have hcollected : (collect same before l).any (same · a) = true := by
      rw [List.any_eq_true]
      rcases mem_collect_or_same hx with hmem | ⟨y, hy, hyx⟩
      · exact ⟨x, hmem, hsame⟩
      · exact ⟨y, hy, htrans y x a (hS y (List.mem_append.2 (mem_of_mem_collect hy))) hyx hsame⟩
    rw [pushNew, if_pos hany, pushNew, if_pos hcollected]
  · rw [pushNew, if_neg hany, collect_append]
    rfl

theorem collect_collect {first : List α} (hS : ∀ x ∈ before ++ first ++ l, S x) :
    collect same before (collect same first l) = collect same (collect same before first) l := by
  induction l generalizing first with
  | nil => rfl
  | cons a rest ih =>
    have hpush : collect same before (pushNew same first a) = pushNew same (collect same before first) a :=
      collect_pushNew htrans fun x hx => hS x (List.mem_append_left _ hx)
    rw [collect_cons, ih, hpush, collect_cons]
    intro x hx
    refine hS x ?_
    rcases List.mem_append.1 hx with hx | hx
    · rcases List.mem_append.1 hx with hx | hx
      · simp [hx]
      · rcases mem_of_mem_pushNew hx with hx | rfl
        · simp [hx]
        · simp
    · simp [hx]

theorem collect_flatMap_collect {lists : List (List α)} (hbefore : ∀ x ∈ before, S x)
    (hlists : ∀ l ∈ lists, ∀ x ∈ l, S x) :
    collect same before (lists.flatMap (collect same [])) = collect same before lists.flatten := by
  induction lists generalizing before with
  | nil => rfl
  | cons l rest ih =>
    rw [List.forall_mem_cons] at hlists
    have hfirst : collect same before (collect same [] l) = collect same before l := by
      rw [collect_collect htrans]
      · rfl
      · intro x hx
        rcases List.mem_append.1 hx with hx | hx
        · exact hbefore x (by simpa using hx)
        · exact hlists.1 x hx
    rw [List.flatMap_cons, List.flatten_cons, collect_append, collect_append, hfirst, ih _ hlists.2]
    intro x hx
    rcases mem_of_mem_collect hx with hx | hx
    · exact hbefore x hx
    · exact hlists.1 x hx

end

end

theorem append_distinctValues (before values : List Json) :
    before ++ distinctValues before values = collect Json.same before values := by
  induction values generalizing before with
  | nil => simp [distinctValues, collect]
  | cons v rest ih =>
    rw [collect_cons]
    by_cases h : before.any (·.same v) = true
    · simp only [distinctValues, pushNew, h, if_true, ih]
    · simp only [distinctValues, pushNew, h, Bool.false_eq_true, if_false, ← ih, List.append_assoc, List.cons_append,
        List.nil_append]

theorem distinctValues_eq_collect (values : List Json) : distinctValues [] values = collect Json.same [] values :=
  append_distinctValues [] values

end ToolSchema
