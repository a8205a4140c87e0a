/-
Unions of unions.

Which variants of a union are repeats of others does not depend on how its members were grouped, since equality of
descriptors is transitive (`same_trans`). So a union whose members are unions themselves is the union of all their
members (`ofVariants_flatten`), and a union of one member is that member (`ofVariants_singleton`).
-/
import ToolSchema.Proofs.Descriptor.Nodes

namespace ToolSchema

theorem Json.sameItems_trans {us vs ws : List Json} (hscalar : ∀ u ∈ us, u.isScalar = true)
    (huv : sameItems us vs = true) (hvw : sameItems vs ws = true) : sameItems us ws = true := by
  induction us generalizing vs ws with
  | nil =>
    cases vs with
    | nil => exact hvw
    | cons v vs => simp [sameItems] at huv
  | cons u us ih =>
    cases vs with
    | nil => simp [sameItems] at huv
    | cons v vs =>
      cases ws with
      | nil => simp [sameItems] at hvw
      | cons w ws =>
        rw [List.forall_mem_cons] at hscalar
        simp only [sameItems, Bool.and_eq_true] at huv hvw ⊢
        exact ⟨same_trans hscalar.1 huv.1 hvw.1, ih hscalar.2 huv.2 hvw.2⟩

namespace Descriptor

/-! ## Equality is transitive -/

theorem sameVariants_trans {as bs cs : List Descriptor}
    (htrans : ∀ a ∈ as, ∀ b c, a.same b = true → b.same c = true → a.same c = true)
    (hab : sameVariants as bs = true) (hbc : sameVariants bs cs = true) : sameVariants as cs = true := by
  induction as generalizing bs cs with
  | nil =>
    cases bs with
    | nil => exact hbc
    | cons b bs => simp [sameVariants] at hab
  | cons a as ih =>
    cases bs with
    | nil => simp [sameVariants] at hab
    | cons b bs =>
      cases cs with
      | nil => simp [sameVariants] at hbc
      | cons c cs =>
        rw [List.forall_mem_cons] at htrans
        simp only [sameVariants, Bool.and_eq_true] at hab hbc ⊢
        exact ⟨htrans.1 b c hab.1 hbc.1, ih htrans.2 hab.2 hbc.2⟩

/-- objects are equal to what their equals are equal to if that goes for the types inside -/
theorem SameShape.same_trans {s t u : Shape Descriptor} (hst : SameShape s t) (htu : SameShape t u)
    (hproperties : ∀ p ∈ s.properties, ∀ b c, p.2.same b = true → b.same c = true → p.2.same c = true)
    (hvalues : ∀ a, s.additional = .values a → ∀ b c, a.same b = true → b.same c = true → a.same c = true) :
    (object s).same (object u) = true := by
  obtain ⟨sproperties, srequired, sadditional⟩ := s
  have hsame : sameProperties sproperties u.properties = true := by
    apply sameProperties_of_forall
    intro p hp
    obtain ⟨b, hb, hpb⟩ := hst.properties p hp
    obtain ⟨c, hc, hbc⟩ := htu.properties (p.1, b) (Entries.mem_of_lookup hb)
    exact ⟨c, hc, hproperties p hp b c hpb hbc⟩
  have hadditional : sameAdditional sadditional u.additional = true := by
    rcases sameAdditional_cases hst.additional with ⟨hs, ht⟩ | ⟨hs, ht⟩ | ⟨a, b, hs, ht, hab⟩
    · have hu := htu.additional
      rw [ht] at hu
      rw [show sadditional = .unconstrained from hs]
      exact hu
    · have hu := htu.additional
      rw [ht] at hu
      rw [show sadditional = .forbidden from hs]
      exact hu
    · obtain ⟨c, hc, hbc⟩ := htu.values_left ht
      rw [show sadditional = .values a from hs, hc]
      exact hvalues a hs b c hab hbc
  have hlength : sproperties.length = u.properties.length := hst.length_eq.trans htu.length_eq
  have hrequired : srequired = u.required := hst.required.trans htu.required
  simp only [same, hsame, hadditional, hlength, hrequired, beq_self_eq_true, Bool.and_self]

theorem same_trans {a b c : Descriptor} (ha : a.Normal) (hab : a.same b = true) (hbc : b.same c = true) :
    a.same c = true := by
  induction a using Descriptor.induct generalizing b c with
  | primitive kind =>
    cases b with
    | primitive kind' =>
      simp only [same, beq_iff_eq] at hab
      exact hab ▸ hbc
    | _ => simp [same] at hab
  | array item ih =>
    cases b with
    | array item' =>
      cases c with
      | array item'' =>
        cases ha with
        | array hitem =>
          simp only [same] at hab hbc ⊢
          exact ih hitem hab hbc
      | _ => simp [same] at hbc
    | _ => simp [same] at hab
  | object s ihproperties ihvalues =>
    cases b with
    | object t =>
      cases c with
      | object u =>
        cases ha with
        | object hs sproperties svalues =>
          exact (sameShape_of_same hab).same_trans (sameShape_of_same hbc)
            (fun p hp _ _ hpb hbc => ihproperties p hp (sproperties p hp) hpb hbc)
            (fun a ha _ _ hab hbc => ihvalues a ha (svalues a ha) hab hbc)
      | _ => simp [same] at hbc
    | _ => simp [same] at hab
  | enum values =>
    cases b with
    | enum values' =>
      cases c with
      | enum values'' =>
        cases ha with
        | enum hne hscalar hdistinct =>
          simp only [same] at hab hbc ⊢
          exact Json.sameItems_trans hscalar hab hbc
      | _ => simp [same] at hbc
    | _ => simp [same] at hab
  | union variants ih =>
    cases b with
    | union variants' =>
      cases c with
      | union variants'' =>
        cases ha with
        | union hseveral hplain hdistinct hvariants =>
          simp only [same] at hab hbc ⊢
          exact sameVariants_trans (fun a ha _ _ hab hbc => ih a ha (hvariants a ha) hab hbc) hab hbc
      | _ => simp [same] at hbc
    | _ => simp [same] at hab
  | unknown =>
    cases b with
    | unknown => exact hbc
    | _ => simp [same] at hab

/-! ## Members and variants -/

variable {members : List Descriptor} {d : Descriptor}

/-- a union is decided by its different variants -/
theorem ofVariants_congr {members' : List Descriptor} (h : distinctVariants members = distinctVariants members') :
    ofVariants members = ofVariants members' := by
  have hleft : (members.flatMap variants).foldl addVariant [] = distinctVariants members := rfl
  have hright : (members'.flatMap variants).foldl addVariant [] = distinctVariants members' := rfl
  simp only [ofVariants, hleft, hright, h]

theorem eq_unknown_of_same {x : Descriptor} (h : x.same .unknown = true) : x = .unknown := by
  cases x with
  | unknown => rfl
  | _ => simp [same] at h

theorem isUnknown_iff : d.isUnknown = true ↔ d = .unknown := by
  cases d <;> simp [isUnknown]

/-- an unknown variant makes the whole unknown -/
theorem ofVariants_eq_unknown (hd : d ∈ members) (hunknown : .unknown ∈ d.variants) :
    ofVariants members = .unknown := by
  have hmem : .unknown ∈ distinctVariants members := by
    rcases mem_distinctVariants_or_same hd hunknown with hmem | ⟨y, hy, hsame⟩
    · exact hmem
    · exact eq_unknown_of_same hsame ▸ hy
  rcases ofVariants_cases members with ⟨heq, -⟩ | ⟨x, heq, hdistinct, hknown⟩ | ⟨heq, -, hknown⟩
  · exact heq
  · rw [hdistinct, List.mem_singleton] at hmem
    rw [heq, ← hmem]
  · cases hknown _ hmem

/-- without an unknown one, the variants of a union are the different variants of its members -/
theorem variants_ofVariants (hnormal : ∀ d ∈ members, d.Normal) (hknown : ∀ d ∈ members, .unknown ∉ d.variants) :
    (ofVariants members).variants = distinctVariants members := by
  have hdistinct : .unknown ∉ distinctVariants members := by
    intro hmem
    obtain ⟨d, hd, hunknown⟩ := exists_of_mem_distinctVariants hmem
    exact hknown d hd hunknown
  rcases ofVariants_cases members with ⟨-, hany⟩ | ⟨x, heq, hsingle, -⟩ | ⟨heq, -⟩
  · obtain ⟨x, hx, hunknown⟩ := List.any_eq_true.1 hany
    rw [isUnknown_iff.1 hunknown] at hx
    exact absurd hx hdistinct
  · have hx : x ∈ distinctVariants members := by
      rw [hsingle]
      exact List.mem_cons_self
    obtain ⟨d, hd, hxd⟩ := exists_of_mem_distinctVariants hx
    have hplain : x.isUnion = false := isUnion_of_mem_variants (hnormal d hd) hxd
    rw [heq, hsingle]
    cases x with
    | union vs => cases hplain
    | _ => rfl
  · rw [heq]
    rfl

theorem ofVariants_singleton (h : d.Normal) : ofVariants [d] = d := by
  have hplain : distinctVariants [d] = [d] → d.isUnion = false → ofVariants [d] = d := by
    intro hdistinct hunion
    rcases ofVariants_cases [d] with ⟨heq, hany⟩ | ⟨x, heq, hsingle, -⟩ | ⟨-, hlength, -⟩
    · rw [hdistinct, List.any_cons, List.any_nil, Bool.or_false, isUnknown_iff] at hany
      rw [heq, hany]
    · rw [hdistinct] at hsingle
      cases hsingle
      exact heq
    · rw [hdistinct] at hlength
      exact absurd rfl hlength
  cases h with
  | union hseveral hvariants hdistinct hnormal =>
    next variants =>
    have hall : distinctVariants [.union variants] = variants := by
      rw [distinctVariants, List.flatMap_singleton]
      exact collect_eq_append hdistinct
    rcases ofVariants_cases [.union variants] with ⟨-, hany⟩ | ⟨x, -, hsingle, -⟩ | ⟨heq, -⟩
    · rw [hall] at hany
      obtain ⟨x, hx, hunknown⟩ := List.any_eq_true.1 hany
      rw [(hvariants x hx).2] at hunknown
      cases hunknown
    · rw [hall] at hsingle
      rw [hsingle, List.length_singleton] at hseveral
      omega
    · rw [heq, hall]
  | _ => exact hplain rfl rfl

theorem ofVariants_null (hne : members ≠ []) (h : ∀ d ∈ members, d = .primitive .null) :
    ofVariants members = .primitive .null := by
  obtain ⟨first, rest, rfl⟩ := List.exists_cons_of_ne_nil hne
  rw [List.forall_mem_cons] at h
  rw [h.1, ← ofVariants_singleton (.primitive .null)]
  apply ofVariants_congr
  rw [distinctVariants, List.flatMap_cons, collect_append]
  apply collect_eq_self
  intro x hx
  obtain ⟨d, hd, hxd⟩ := List.mem_flatMap.1 hx
  rw [h.2 d hd] at hxd
  rw [List.mem_singleton.1 hxd]
  exact ⟨.primitive .null, List.mem_singleton_self _, rfl⟩

/-- **A union of unions is the union of all their members.** -/
theorem ofVariants_flatten {groups : List (List Descriptor)} (hnormal : ∀ ds ∈ groups, ∀ d ∈ ds, d.Normal) :
    ofVariants (groups.map ofVariants) = ofVariants groups.flatten := by
  by_cases hknown : ∀ ds ∈ groups, ∀ d ∈ ds, .unknown ∉ d.variants
  · apply ofVariants_congr
    have hgroup : (groups.map ofVariants).flatMap variants =
        (groups.map (·.flatMap variants)).flatMap (collect same []) := by
      rw [List.flatMap_map, List.flatMap_map]
      apply List.flatMap_congr
      intro ds hds
      exact variants_ofVariants (hnormal ds hds) (hknown ds hds)
    have hflatten : groups.flatten.flatMap variants = (groups.map (·.flatMap variants)).flatten := by
      rw [List.flatMap_def, List.map_flatten, List.flatten_flatten, List.map_map]
      rfl
    rw [distinctVariants, distinctVariants, hgroup, hflatten]
    have htrans : ∀ a b c : Descriptor, a.Normal → a.same b = true → b.same c = true → a.same c = true :=
      fun _ _ _ => same_trans
    refine collect_flatMap_collect htrans (fun _ hx => absurd hx List.not_mem_nil) ?_
    intro l hl x hx
    obtain ⟨ds, hds, rfl⟩ := List.mem_map.1 hl
    obtain ⟨d, hd, hxd⟩ := List.mem_flatMap.1 hx
    exact normal_of_mem_variants (hnormal ds hds d hd) hxd
  · simp only [not_forall, not_not] at hknown
    obtain ⟨ds, hds, d, hd, hunknown⟩ := hknown
    have hgroup : ofVariants ds = .unknown := ofVariants_eq_unknown hd hunknown
    rw [ofVariants_eq_unknown (List.mem_flatten.2 ⟨ds, hds, hd⟩) hunknown]
    refine ofVariants_eq_unknown (List.mem_map_of_mem hds) ?_
    rw [hgroup]
    exact List.mem_singleton_self _

end Descriptor

end ToolSchema
