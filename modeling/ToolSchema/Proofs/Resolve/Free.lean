/-
Which names resolution looks up.

Of the names in a hint only those that are free are ever looked up: a name inside of the record that has it is cut
there. So where all free names are under expansion, it makes no difference what is registered (`resolve_eq_of_free`),
neither to the type nor to what is reported.
-/
import ToolSchema.Proofs.Hint.Names
import ToolSchema.Proofs.Resolve.Resolves

namespace ToolSchema

namespace Hint

theorem allFree_append (as bs : List Hint) : allFree (as ++ bs) = allFree as ++ allFree bs := by
  simp only [allFree_eq_flatMap, List.flatMap_append]

mutual

/-- flattening a union keeps its names -/
theorem allFree_members (h : Hint) : allFree h.members = h.free := by
  cases h with
  | optional inner =>
    rw [members, allFree_append, allFree_members inner]
    exact List.append_nil inner.free
  | union hints => exact allFree_allMembers hints
  | _ => exact List.append_nil _

theorem allFree_allMembers (hints : List Hint) : allFree (allMembers hints) = allFree hints := by
  cases hints with
  | nil => rfl
  | cons h rest => rw [allMembers, allFree_append, allFree_members h, allFree_allMembers rest, allFree]

end

theorem free_subset_of_mem_members {h m : Hint} (hm : m ∈ h.members) : m.free ⊆ h.free := by
  rw [← allFree_members h, allFree_eq_flatMap]
  exact fun name hname => List.mem_flatMap.2 ⟨m, hm, hname⟩

theorem free_subset_of_mem_fields {f : Field Hint} {fields : List (Field Hint)} (hf : f ∈ fields) :
    f.hint.free ⊆ fieldsFree fields := by
  rw [fieldsFree_eq_flatMap]
  exact fun name hname => List.mem_flatMap.2 ⟨f, hf, hname⟩

end Hint

/-! ## Parts that resolve alike -/

variable {r r' : Registry} {seen : List String}

theorem resolveAll_congr {hints : List Hint} (h : ∀ hint ∈ hints, resolve r seen hint = resolve r' seen hint) :
    resolveAll r seen hints = resolveAll r' seen hints := by
  induction hints with
  | nil => rw [resolveAll, resolveAll]
  | cons hint rest ih =>
    rw [List.forall_mem_cons] at h
    rw [resolveAll, resolveAll, h.1, ih h.2]

theorem resolveUnion_congr {members : List Hint} (h : ∀ m ∈ members, resolve r seen m = resolve r' seen m) :
    resolveUnion r seen members = resolveUnion r' seen members := by
  rw [resolveUnion, resolveUnion]
  split
  · rfl
  · next member hfilter =>
    have hmem : member ∈ members.filter (!·.isNull) := hfilter ▸ List.mem_singleton_self member
    exact h member (List.mem_filter.1 hmem).1
  · rw [resolveAll_congr h]

theorem resolveFields_congr {fields : List (Field Hint)} (shape : Shape Descriptor)
    (h : ∀ f ∈ fields, resolve r seen f.hint = resolve r' seen f.hint) :
    resolveFields r seen shape fields = resolveFields r' seen shape fields := by
  induction fields generalizing shape with
  | nil => rw [resolveFields, resolveFields]
  | cons f rest ih =>
    rw [List.forall_mem_cons] at h
    rw [resolveFields, resolveFields, h.1]
    simp only [ih _ h.2]

/-! ## Hints -/

/-- What holds of a hint when it holds of all hints of less weight, holds of every hint. -/
theorem Hint.weight_induct {P : Hint → Prop} (step : ∀ h : Hint, (∀ h' : Hint, h'.weight < h.weight → P h') → P h)
    (h : Hint) : P h :=
  (measure Hint.weight).wf.induction h step

/-- **What is under expansion is never looked up.** If that goes for all names that are free in a hint, it resolves
alike in any two registries, with the same diagnostics. -/
theorem resolve_eq_of_free (r r' : Registry) (seen : List String) (h : Hint) (hfree : h.free ⊆ seen) :
    resolve r seen h = resolve r' seen h := by
  induction h using Hint.weight_induct generalizing seen with
  | step h smaller =>
  cases h with
  | array item =>
    cases item with
    | none => rw [resolve, resolve]
    | some item =>
      have hitem := smaller item (Hint.weight_item_lt item) seen hfree
      rw [resolve, resolve, hitem]
  | map key value =>
    cases value with
    | none => rw [resolve, resolve]
    | some value =>
      have hvalue := smaller value (Hint.weight_value_lt key value) seen hfree
      rw [resolve_map, resolve_map, hvalue]
  | optional inner =>
    rw [resolve, resolve]
    refine resolveUnion_congr fun m hm =>
      smaller m ?_ seen (List.Subset.trans (Hint.free_subset_of_mem_members hm) hfree)
    exact Hint.weight_lt_of_mem_optional hm
  | union hints =>
    rw [resolve, resolve]
    refine resolveUnion_congr fun m hm =>
      smaller m ?_ seen (List.Subset.trans (Hint.free_subset_of_mem_members hm) hfree)
    exact Hint.weight_lt_of_mem_union hm
  | record record =>
    rcases record.open_or_seen seen with hopen | ⟨own, hname, hseen⟩
    · rw [resolve_record hopen, resolve_record hopen]
      refine resolveFields_congr _ fun f hf => smaller f.hint (Hint.weight_field_lt hf) _ fun name hname => ?_
      -- the name of the record itself is under expansion now
      by_cases hown : record.name = some name
      · rw [hown]
        exact List.mem_cons_self
      · refine List.mem_append_right _ (hfree ?_)
        rw [Hint.free, List.mem_filter]
        exact ⟨Hint.free_subset_of_mem_fields hf hname, bne_iff_ne.2 hown⟩
    · rw [resolve_record_of_mem hname hseen, resolve_record_of_mem hname hseen]
  | named name =>
    have hseen : name ∈ seen := hfree (List.mem_singleton_self name)
    rw [resolve_named_of_mem hseen, resolve_named_of_mem hseen]
  | _ => rw [resolve, resolve]

end ToolSchema
