/-
Members that a union lists again.

The variants of a union stay the same when a member comes again (`distinctVariants_append_of_subset`). But whether there
is a union at all is decided by the number of members other than null, repeats among them: beside a single one null is
left out, beside two it is a variant. `OmitsNull` says when that makes a difference to the type
(`ofVariants_eq_iff_of_single`).
- `resolveUnion_append_of_subset`: members that are there already change the type only where null was left out and they
  have the member beside it.
- `descriptor_union_repeat`: so it is for a hint that a union lists once more.
- `descriptor_union_repeat_ne`: and there the type does change.
-/
import ToolSchema.Proofs.Resolve.Grouping

namespace ToolSchema

open Hint (nullOnce)

/-! ## Types that come again -/

namespace Descriptor

/-- members that are there already add nothing -/
theorem distinctVariants_append_of_subset {as bs : List Descriptor} (hnormal : ∀ d ∈ bs, d.Normal) (h : bs ⊆ as) :
    distinctVariants (as ++ bs) = distinctVariants as := by
  rw [distinctVariants, distinctVariants, List.flatMap_append]
  refine collect_append_of_subset (fun x hx => ?_) (fun x hx => ?_)
  · obtain ⟨d, hd, hxd⟩ := List.mem_flatMap.1 hx
    exact same_refl (normal_of_mem_variants (hnormal d hd) hxd)
  · obtain ⟨d, hd, hxd⟩ := List.mem_flatMap.1 hx
    exact List.mem_flatMap.2 ⟨d, h hd, hxd⟩

/-! ## Null beside one other type -/

variable {d : Descriptor} {types : List Descriptor}

theorem eq_unknown_of_mem_variants (hd : d.Normal) (h : .unknown ∈ d.variants) : d = .unknown := by
  cases hd with
  | union hseveral hplain hdistinct hvariants => cases (hplain _ h).2
  | _ => exact (List.mem_singleton.1 h).symm

theorem variants_ofVariants_of_known (hnormal : ∀ d ∈ types, d.Normal) (hknown : .unknown ∉ types) :
    (ofVariants types).variants = distinctVariants types :=
  variants_ofVariants hnormal fun d hd hmem => hknown (eq_unknown_of_mem_variants (hnormal d hd) hmem ▸ hd)

theorem eq_null_of_same {x : Descriptor} (h : x.same (.primitive .null) = true) : x = .primitive .null := by
  cases x with
  | primitive kind =>
    simp only [same, beq_iff_eq] at h
    rw [h]
  | _ => cases h

/-- null after a type is one variant more, unless the type lists it -/
theorem ofVariants_before_null (hd : d.Normal) :
    ofVariants [d, .primitive .null] = d ↔ d = .unknown ∨ .primitive .null ∈ d.variants := by
  constructor
  · intro heq
    by_cases hunknown : d = .unknown
    · exact .inl hunknown
    · have hnormal : ∀ x ∈ [d, .primitive .null], x.Normal := by simp [hd, Normal.primitive]
      have hvariants : d.variants = distinctVariants [d, .primitive .null] := by
        rw [← variants_ofVariants_of_known hnormal (by simp [Ne.symm hunknown]), heq]
      have hlast : .primitive .null ∈ [d, .primitive .null] := List.mem_cons_of_mem d List.mem_cons_self
      rw [hvariants]
      rcases mem_distinctVariants_or_same hlast List.mem_cons_self with hmem | ⟨x, hx, hsame⟩
      · exact .inr hmem
      · exact .inr (eq_null_of_same hsame ▸ hx)
  · rintro (rfl | hnull)
    · exact ofVariants_eq_unknown List.mem_cons_self List.mem_cons_self
    · refine Eq.trans (ofVariants_congr ?_) (ofVariants_singleton hd)
      rw [distinctVariants, distinctVariants, List.flatMap_cons, List.flatMap_singleton, List.flatMap_singleton]
      refine collect_append_of_subset (fun x hx => ?_) (fun x hx => ?_)
      · rw [List.mem_singleton.1 hx]
        rfl
      · rw [List.mem_singleton.1 hx]
        exact hnull

/-- null before a type is one variant more, unless it is the first one of the type -/
theorem ofVariants_after_null (hd : d.Normal) :
    ofVariants [.primitive .null, d] = d ↔ d = .unknown ∨ d.variants.head? = some (.primitive .null) := by
  have hdistinct : distinctVariants [.primitive .null, d] = collect same [.primitive .null] d.variants := by
    rw [distinctVariants, List.flatMap_cons, List.flatMap_singleton]
    rfl
  constructor
  · intro heq
    by_cases hunknown : d = .unknown
    · exact .inl hunknown
    · have hnormal : ∀ x ∈ [.primitive .null, d], x.Normal := by simp [hd, Normal.primitive]
      have hvariants : d.variants = distinctVariants [.primitive .null, d] := by
        rw [← variants_ofVariants_of_known hnormal (by simp [Ne.symm hunknown]), heq]
      have hprefix : [.primitive .null] <+: collect same [.primitive .null] d.variants := prefix_collect
      obtain ⟨rest, hrest⟩ := hprefix
      rw [hvariants, hdistinct, ← hrest]
      exact .inr rfl
  · rintro (rfl | hnull)
    · exact ofVariants_eq_unknown (List.mem_cons_of_mem _ List.mem_cons_self) List.mem_cons_self
    · refine Eq.trans (ofVariants_congr ?_) (ofVariants_singleton hd)
      obtain ⟨rest, hrest⟩ := List.head?_eq_some_iff.1 hnull
      rw [hdistinct, distinctVariants, List.flatMap_singleton, hrest]
      rfl

end Descriptor

/-! ## A member once more -/

namespace Hint

/-- one member beside nulls: alone, after a null or before one -/
theorem nullOnce_of_single {m : Hint} {members : List Hint} (hsingle : members.filter (!·.isNull) = [m]) :
    (nullOnce members = [m] ∧ .null ∉ members) ∨ (nullOnce members = [.null, m] ∧ members.head? = some .null) ∨
      (nullOnce members = [m, .null] ∧ .null ∈ members ∧ members.head? ≠ some .null) := by
  cases members with
  | nil => cases hsingle
  | cons first rest =>
    cases hfirst : first.isNull with
    | true =>
      rw [List.filter_cons_of_neg (by simp [hfirst])] at hsingle
      rw [eq_null_of_isNull hfirst, nullOnce, hsingle]
      exact .inr (.inl ⟨rfl, rfl⟩)
    | false =>
      rw [List.filter_cons_of_pos (by simp [hfirst]), List.cons.injEq] at hsingle
      obtain ⟨rfl, hrest⟩ := hsingle
      have hne : first ≠ .null := by
        rintro rfl
        cases hfirst
      rw [nullOnce_cons_of_ne hfirst]
      cases rest with
      | nil =>
        refine .inl ⟨rfl, fun hnull => hne ?_⟩
        exact (List.mem_singleton.1 hnull).symm
      | cons next rest =>
        have hnext : next.isNull = true := by simpa using List.filter_eq_nil_iff.1 hrest next List.mem_cons_self
        rw [List.filter_cons_of_neg (by simp [hnext])] at hrest
        rw [eq_null_of_isNull hnext, nullOnce, hrest]
        refine .inr (.inr ⟨rfl, List.mem_cons_of_mem _ List.mem_cons_self, fun hhead => hne ?_⟩)
        exact Option.some.inj hhead

end Hint

variable {r : Registry} {seen : List String} {members members' : List Hint} {m : Hint}

/-- Null is left out of the union of these members: it stands beside m alone, and m has a type to which null would be
added as a variant, or before its variants. -/
structure OmitsNull (r : Registry) (seen : List String) (members : List Hint) (m : Hint) : Prop where
  single : members.filter (!·.isNull) = [m]
  null : .null ∈ members
  known : (resolve r seen m).value ≠ .unknown
  /-- if null is a variant of the type, it is one that comes later than among the members -/
  later : .primitive .null ∈ (resolve r seen m).value.variants →
    members.head? = some .null ∧ (resolve r seen m).value.variants.head? ≠ some (.primitive .null)

/-- the union of all members, null among them, is the type of the single other one just where no null is left out -/
theorem ofVariants_eq_iff_of_single (hsingle : members.filter (!·.isNull) = [m]) :
    Descriptor.ofVariants (members.map fun m => (resolve r seen m).value) = (resolve r seen m).value ↔
      ¬ OmitsNull r seen members m := by
  have hnormal : (resolve r seen m).value.Normal := (resolve_resolves r seen m).normal
  have honce : Descriptor.ofVariants (members.map fun m => (resolve r seen m).value) =
      Descriptor.ofVariants ((nullOnce members).map fun m => (resolve r seen m).value) :=
    (Descriptor.ofVariants_congr (Descriptor.distinctVariants_nullOnce resolve_null_value)).symm
  rw [honce]
  rcases Hint.nullOnce_of_single hsingle with ⟨hmembers, hnull⟩ | ⟨hmembers, hhead⟩ | ⟨hmembers, hnull, hhead⟩
  · rw [hmembers]
    exact iff_of_true (Descriptor.ofVariants_singleton hnormal) fun homits => hnull homits.null
  · rw [hmembers, List.map_cons, List.map_singleton, resolve_null_value, Descriptor.ofVariants_after_null hnormal]
    constructor
    · rintro (hunknown | hfirst) homits
      · exact homits.known hunknown
      · exact (homits.later (List.mem_of_mem_head? hfirst)).2 hfirst
    · intro homits
      by_contra hboth
      rw [not_or] at hboth
      exact homits ⟨hsingle, List.mem_of_mem_head? hhead, hboth.1, fun _ => ⟨hhead, hboth.2⟩⟩
  · rw [hmembers, List.map_cons, List.map_singleton, resolve_null_value, Descriptor.ofVariants_before_null hnormal]
    constructor
    · rintro (hunknown | hlisted) homits
      · exact homits.known hunknown
      · exact hhead (homits.later hlisted).1
    · intro homits
      by_contra hboth
      rw [not_or] at hboth
      exact homits ⟨hsingle, hnull, hboth.1, fun hlisted => absurd hlisted hboth.2⟩

theorem OmitsNull.not_isNull (h : OmitsNull r seen members m) : m.isNull = false := by
  have hmem : m ∈ members.filter (!·.isNull) := h.single ▸ List.mem_singleton_self m
  simpa using (List.mem_filter.1 hmem).2

theorem ofVariants_append_of_subset (h : members' ⊆ members) :
    Descriptor.ofVariants ((members ++ members').map fun m => (resolve r seen m).value) =
      Descriptor.ofVariants (members.map fun m => (resolve r seen m).value) := by
  rw [List.map_append]
  refine Descriptor.ofVariants_congr (Descriptor.distinctVariants_append_of_subset ?_ (List.map_subset _ h))
  intro d hd
  obtain ⟨m, -, rfl⟩ := List.mem_map.1 hd
  exact (resolve_resolves r seen m).normal

/-- nulls that are there already change nothing -/
theorem resolveUnion_append_nulls (h : members' ⊆ members) (hnulls : members'.filter (!·.isNull) = []) :
    (resolveUnion r seen (members ++ members')).value = (resolveUnion r seen members).value := by
  have hfilter : (members ++ members').filter (!·.isNull) = members.filter (!·.isNull) := by
    rw [List.filter_append, hnulls, List.append_nil]
  rcases Nat.lt_or_ge (members.filter (!·.isNull)).length 2 with hfew | hseveral
  · by_cases hnil : members = []
    · rw [hnil, List.subset_nil] at h
      rw [h, List.append_nil]
    · exact resolveUnion_congr_of_filter (by simp [hnil]) hnil hfilter (hfilter ▸ Nat.le_of_lt_succ hfew)
  · rw [resolveUnion_value hseveral, resolveUnion_value (hfilter ▸ hseveral)]
    exact ofVariants_append_of_subset h

/-- **Members that are there already.** They change a union only where null was left out beside a single other member,
and that one is among them. -/
theorem resolveUnion_append_of_subset (h : members' ⊆ members) :
    (resolveUnion r seen (members ++ members')).value = (resolveUnion r seen members).value ↔
      ¬ ∃ m ∈ members', OmitsNull r seen members m := by
  by_cases hnulls : members'.filter (!·.isNull) = []
  · refine iff_of_true (resolveUnion_append_nulls h hnulls) ?_
    rintro ⟨m, hm, homits⟩
    have hnull : m.isNull = true := by simpa using List.filter_eq_nil_iff.1 hnulls m hm
    rw [homits.not_isNull] at hnull
    cases hnull
  · obtain ⟨m, hm⟩ := List.exists_mem_of_ne_nil _ hnulls
    have hmem : m ∈ members.filter (!·.isNull) :=
      List.mem_filter.2 ⟨h (List.mem_filter.1 hm).1, (List.mem_filter.1 hm).2⟩
    have hone : 1 ≤ (members.filter (!·.isNull)).length := List.length_pos_of_mem hmem
    have hmore : 1 ≤ (members'.filter (!·.isNull)).length := List.length_pos_of_mem hm
    have hseveral : 2 ≤ ((members ++ members').filter (!·.isNull)).length := by
      rw [List.filter_append, List.length_append]
      omega
    rw [resolveUnion_value hseveral, ofVariants_append_of_subset h]
    by_cases hsingle : (members.filter (!·.isNull)).length = 1
    · obtain ⟨x, hx⟩ := List.length_eq_one_iff.1 hsingle
      rw [hx, List.mem_singleton] at hmem
      subst hmem
      rw [resolveUnion_of_singleton hx, ofVariants_eq_iff_of_single hx, not_iff_not]
      refine ⟨fun homits => ⟨m, (List.mem_filter.1 hm).1, homits⟩, ?_⟩
      rintro ⟨x, -, homits⟩
      cases hx.symm.trans homits.single
      exact homits
    · rw [resolveUnion_value (by omega)]
      refine iff_of_true rfl ?_
      rintro ⟨x, -, homits⟩
      rw [homits.single] at hsingle
      exact hsingle rfl

/-- **Repeating a member of a union.** A hint that is listed once more changes nothing, unless the members of the union
are nulls and one other, the hint has that one among its own, and null was left out beside it. In all these cases it
does change the type: null is a variant now. -/
theorem descriptor_union_repeat (r : Registry) {hints : List Hint} {h : Hint} (hh : h ∈ hints) :
    (Hint.union (hints ++ [h])).descriptor r = (Hint.union hints).descriptor r ↔
      ¬ ∃ m ∈ h.members, OmitsNull r [] (Hint.union hints).members m := by
  have hmembers : (Hint.union (hints ++ [h])).members = (Hint.union hints).members ++ h.members := by
    rw [Hint.members, Hint.members, Hint.allMembers_eq_flatMap, Hint.allMembers_eq_flatMap, List.flatMap_append,
      List.flatMap_singleton]
  have hsubset : h.members ⊆ (Hint.union hints).members := by
    intro m hm
    rw [Hint.members, Hint.allMembers_eq_flatMap]
    exact List.mem_flatMap.2 ⟨h, hh, hm⟩
  rw [Hint.descriptor, Hint.descriptor, resolve_value_eq_members, resolve_value_eq_members, hmembers]
  exact resolveUnion_append_of_subset hsubset

/-- beside an integer, an optional text may be listed twice -/
theorem descriptor_union_repeat_optional :
    Hint.optional .string ∈ [.optional .string, .integer] ∧
      (Hint.union ([.optional .string, .integer] ++ [.optional .string])).descriptor .empty =
        (Hint.union [.optional .string, .integer]).descriptor .empty := by
  refine ⟨List.mem_cons_self, (descriptor_union_repeat .empty List.mem_cons_self).2 ?_⟩
  rintro ⟨m, -, homits⟩
  have hsingle : [Hint.string, .integer] = [m] := homits.single
  cases hsingle

/-- Text or null is text, as null is left out. With the text listed once more there are two members beside null, and
null stays. -/
theorem descriptor_union_repeat_ne :
    Hint.string ∈ [.string, .null] ∧
      (Hint.union ([.string, .null] ++ [.string])).descriptor .empty ≠
        (Hint.union [.string, .null]).descriptor .empty := by
  have honce : (Hint.union [.string, .null]).descriptor .empty = .primitive .string := by
    rw [Hint.descriptor, resolve_value_eq_members, resolveUnion_of_singleton rfl, resolve]
    rfl
  have htwice : (Hint.union ([.string, .null] ++ [.string])).descriptor .empty =
      .union [.primitive .string, .primitive .null] := by
    rw [Hint.descriptor, resolve_value_eq_members, resolveUnion_value (by decide)]
    simp only [List.cons_append, List.nil_append, Hint.members, Hint.allMembers, List.map_cons, List.map_nil, resolve]
    rfl
  refine ⟨List.mem_cons_self, ?_⟩
  rw [honce, htwice]
  exact Descriptor.noConfusion

end ToolSchema
