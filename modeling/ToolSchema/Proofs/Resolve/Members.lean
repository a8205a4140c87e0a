/-
Hints by their members.

Resolution flattens a union before it looks at it. So any hint is resolved by its members (`resolve_value_eq_members`),
and it is the union of what they resolve to, unless there are none, or null is left out beside a single one
(`resolve_value_eq_ofVariants`). From that follows when members may be flattened further (`resolveUnion_flatMap`): if
each has some, if none of those is a null that would be left out, and if this does not change whether there are several
members beside null.
-/
import ToolSchema.Proofs.Descriptor.Flatten

namespace ToolSchema

/-! ## Members -/

namespace Hint

theorem allMembers_eq_flatMap (hints : List Hint) : allMembers hints = hints.flatMap Hint.members := by
  induction hints with
  | nil => rfl
  | cons h rest ih => rw [allMembers, ih, List.flatMap_cons]

/-- how many members are other than null -/
def choices (h : Hint) : Nat :=
  (h.members.filter (!·.isNull)).length

mutual

/-- a member is flattened as far as it goes -/
theorem members_of_mem_members {h m : Hint} (hm : m ∈ h.members) : m.members = [m] := by
  cases h with
  | optional inner =>
    rcases List.mem_append.1 hm with hm | hnull
    · exact members_of_mem_members hm
    · rw [List.mem_singleton.1 hnull]
      rfl
  | union hints => exact members_of_mem_allMembers hm
  | _ =>
    rw [List.mem_singleton.1 hm]
    rfl

theorem members_of_mem_allMembers {hints : List Hint} {m : Hint} (hm : m ∈ allMembers hints) : m.members = [m] := by
  cases hints with
  | nil => cases hm
  | cons h rest =>
    rcases List.mem_append.1 hm with hm | hm
    · exact members_of_mem_members hm
    · exact members_of_mem_allMembers hm

end

end Hint

variable {r : Registry} {seen seen' : List String} {h m : Hint} {members : List Hint}

theorem resolveUnion_of_singleton (hfilter : members.filter (!·.isNull) = [m]) :
    resolveUnion r seen members = resolve r seen m := by
  rw [resolveUnion]
  split
  · next hnil => cases hnil.symm.trans hfilter
  · next hsingle =>
    cases hsingle.symm.trans hfilter
    rfl
  · next hseveral => cases hseveral.symm.trans hfilter

theorem resolveUnion_of_nil (hne : members ≠ []) (hfilter : members.filter (!·.isNull) = []) :
    (resolveUnion r seen members).value = .primitive .null := by
  rw [resolveUnion]
  split
  · rw [if_neg (by simpa using hne)]
    rfl
  · next hsingle => cases hsingle.symm.trans hfilter
  · next hseveral => cases hseveral.symm.trans hfilter

/-- any hint is resolved by its members -/
theorem resolve_value_eq_members (h : Hint) : (resolve r seen h).value = (resolveUnion r seen h.members).value := by
  cases h with
  | optional inner => rw [resolve]
  | union hints => rw [resolve]
  | null =>
    have hmembers : Hint.null.members = [.null] := rfl
    rw [hmembers, resolveUnion_of_nil (List.cons_ne_nil _ _) rfl, resolve]
    rfl
  | _ => rw [resolveUnion_of_singleton rfl]

/-- a hint is the union of its members, unless there are none, or null is left out beside a single one -/
theorem resolve_value_eq_ofVariants (hne : h.members ≠ []) (hnull : h.choices = 1 → .null ∉ h.members) :
    (resolve r seen h).value = .ofVariants (h.members.map fun m => (resolve r seen m).value) := by
  rw [resolve_value_eq_members]
  match hfilter : h.members.filter (!·.isNull) with
  | [] =>
    rw [resolveUnion_of_nil hne hfilter, Descriptor.ofVariants_null (by simpa using hne)]
    intro d hd
    obtain ⟨m, hm, rfl⟩ := List.mem_map.1 hd
    have hnull : m.isNull = true := by simpa using List.filter_eq_nil_iff.1 hfilter m hm
    rw [Hint.eq_null_of_isNull hnull, resolve]
    rfl
  | [m] =>
    have hall : h.members.filter (!·.isNull) = h.members := by
      rw [List.filter_eq_self]
      intro x hx
      rw [Bool.not_eq_true', ← Bool.not_eq_true]
      intro hx'
      rw [Hint.eq_null_of_isNull hx'] at hx
      exact hnull (congrArg List.length hfilter) hx
    have hmembers : h.members = [m] := hall.symm.trans hfilter
    rw [resolveUnion_of_singleton hfilter, hmembers]
    exact (Descriptor.ofVariants_singleton (resolve_resolves r seen m).normal).symm
  | first :: second :: rest =>
    rw [resolveUnion_value]
    rw [hfilter]
    exact Nat.le_add_left _ _

/-- with at most one member beside null, only that one matters -/
theorem resolveUnion_congr_of_filter {members' : List Hint} (hne : members ≠ []) (hne' : members' ≠ [])
    (hfilter : members.filter (!·.isNull) = members'.filter (!·.isNull))
    (hfew : (members.filter (!·.isNull)).length ≤ 1) :
    (resolveUnion r seen members).value = (resolveUnion r seen members').value := by
  match hlist : members.filter (!·.isNull) with
  | [] => rw [resolveUnion_of_nil hne hlist, resolveUnion_of_nil hne' (hfilter.symm.trans hlist)]
  | [m] => rw [resolveUnion_of_singleton hlist, resolveUnion_of_singleton (hfilter.symm.trans hlist)]
  | first :: second :: rest =>
    rw [hlist] at hfew
    exact absurd hfew (by simp)

theorem filter_flatMap_of_dropped {α : Type} {p : α → Bool} {f : α → List α} {l : List α}
    (h : ∀ a ∈ l, p a = false → (f a).filter p = []) :
    (l.flatMap f).filter p = (l.filter p).flatMap fun a => (f a).filter p := by
  induction l with
  | nil => rfl
  | cons a rest ih =>
    rw [List.forall_mem_cons] at h
    rw [List.flatMap_cons, List.filter_append, ih h.2]
    cases ha : p a with
    | false => rw [h.1 ha, List.filter_cons_of_neg (by simp [ha]), List.nil_append]
    | true => rw [List.filter_cons_of_pos ha, List.flatMap_cons]

/-- members of members, where there are several beside null -/
theorem resolveUnion_flatMap_of_several {f : Hint → Hint}
    (hvalue : ∀ m ∈ members, (resolve r seen m).value = (resolve r seen' (f m)).value)
    (hkept : ∀ m ∈ members, (f m).members ≠ [] ∧ ((f m).choices = 1 → .null ∉ (f m).members))
    (hseveral : 2 ≤ (members.filter (!·.isNull)).length)
    (hseveral' : 2 ≤ ((members.flatMap fun m => (f m).members).filter (!·.isNull)).length) :
    (resolveUnion r seen members).value = (resolveUnion r seen' (members.flatMap fun m => (f m).members)).value := by
  have hgroups : (members.map fun m => (resolve r seen m).value) =
      (members.map fun m => (f m).members.map fun x => (resolve r seen' x).value).map Descriptor.ofVariants := by
    rw [List.map_map]
    apply List.map_congr_left
    intro m hm
    rw [hvalue m hm, resolve_value_eq_ofVariants (hkept m hm).1 (hkept m hm).2]
    rfl
  have hflatten : (members.map fun m => (f m).members.map fun x => (resolve r seen' x).value).flatten =
      (members.flatMap fun m => (f m).members).map fun x => (resolve r seen' x).value := by
    rw [List.map_flatMap, List.flatMap_def]
  rw [resolveUnion_value hseveral, resolveUnion_value hseveral', hgroups, Descriptor.ofVariants_flatten, hflatten]
  intro ds hds d hd
  obtain ⟨m, hm, rfl⟩ := List.mem_map.1 hds
  obtain ⟨x, hx, rfl⟩ := List.mem_map.1 hd
  exact (resolve_resolves r seen' x).normal

/-- **Members of members.** A union is resolved as if its members were replaced by theirs, if that leaves no member
without any, hides no null beside a single one, and does not change whether there are several beside null. -/
theorem resolveUnion_flatMap {f : Hint → Hint} (hplain : ∀ m ∈ members, m.members = [m])
    (hvalue : ∀ m ∈ members, (resolve r seen m).value = (resolve r seen' (f m)).value) (hnull : f .null = .null)
    (hfew : 2 ≤ members.length → (2 ≤ (members.filter (!·.isNull)).length ↔
      2 ≤ ((members.flatMap fun m => (f m).members).filter (!·.isNull)).length))
    (hkept : 2 ≤ members.length → ∀ m ∈ members, (f m).members ≠ [] ∧
      (2 ≤ (members.filter (!·.isNull)).length → (f m).choices = 1 → .null ∉ (f m).members)) :
    (resolveUnion r seen members).value = (resolveUnion r seen' (members.flatMap fun m => (f m).members)).value := by
  match members with
  | [] =>
    rw [resolveUnion, List.flatMap_nil, resolveUnion]
    rfl
  | [m] =>
    have hm : m ∈ [m] := List.mem_singleton_self m
    have hleft : (resolve r seen m).value = (resolveUnion r seen [m]).value := by
      rw [resolve_value_eq_members, hplain m hm]
    rw [← hleft, List.flatMap_singleton, hvalue m hm, resolve_value_eq_members]
  | first :: second :: rest =>
    generalize hlist : first :: second :: rest = members at *
    have hlength : 2 ≤ members.length := by
      rw [← hlist]
      exact Nat.le_add_left _ _
    have hne : members ≠ [] := by
      rw [← hlist]
      exact List.cons_ne_nil _ _
    have hne' : (members.flatMap fun m => (f m).members) ≠ [] := by
      rw [← hlist, List.flatMap_cons]
      intro hnil
      have hfirst : first ∈ members := hlist ▸ List.mem_cons_self
      exact (hkept hlength first hfirst).1 (List.append_eq_nil_iff.1 hnil).1
    have hdropped : ∀ m ∈ members, (!m.isNull) = false → (f m).members.filter (!·.isNull) = [] := by
      intro m _ hm
      have hm : m.isNull = true := by simpa using hm
      rw [Hint.eq_null_of_isNull hm, hnull]
      rfl
    have hfilter := filter_flatMap_of_dropped hdropped
    rcases hmine : members.filter (!·.isNull) with _ | ⟨m, _ | ⟨other, others⟩⟩
    · rw [hmine] at hfilter
      rw [resolveUnion_of_nil hne hmine, resolveUnion_of_nil hne' hfilter]
    · have hm : m ∈ members := (List.mem_filter.1 (hmine ▸ List.mem_singleton_self m)).1
      rw [hmine, List.flatMap_singleton] at hfilter
      rw [resolveUnion_of_singleton hmine, hvalue m hm, resolve_value_eq_members]
      refine resolveUnion_congr_of_filter (hkept hlength m hm).1 hne' hfilter.symm ?_
      have hiff := hfew hlength
      rw [hmine, hfilter, List.length_singleton] at hiff
      omega
    · have hseveral : 2 ≤ (members.filter (!·.isNull)).length := by
        rw [hmine]
        exact Nat.le_add_left _ _
      refine resolveUnion_flatMap_of_several hvalue (fun m hm => ?_) hseveral ((hfew hlength).1 hseveral)
      exact ⟨(hkept hlength m hm).1, (hkept hlength m hm).2 hseveral⟩

end ToolSchema
