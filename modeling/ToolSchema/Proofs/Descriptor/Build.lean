/-
How descriptors are put together: objects field by field, unions from their members.

`Reflects` is what holds of an object after some declarations. One declaration keeps it (`reflects_declare`), so a run
does (`reflects_declareAll`): each property has the type that was declared last, and is required if that declaration
says so. A union of normal types
- accepts what any of them accepts (`accepts_ofVariants`);
- is unknown if any of them is in part (`hasUnknown_of_ofVariants`), and only then (`exists_hasUnknown_of_ofVariants`);
- accepts nothing else, unless it is unknown (`exists_accepts_of_ofVariants`).
What is built of normal types is normal (`normal_object`, `normal_ofVariants`).
-/
import ToolSchema.Proofs.Descriptor.Normal
import ToolSchema.Proofs.Fields
import ToolSchema.Proofs.Repeats

namespace ToolSchema

/-! ## Objects -/

namespace Shape

/-- declare fields one after another -/
def declareAll (shape : Shape Descriptor) (fields : List (Field Descriptor)) : Shape Descriptor :=
  fields.foldl (fun s f => s.declare f.name f.hint f.required) shape

theorem declareAll_cons (shape : Shape Descriptor) (f : Field Descriptor) (rest : List (Field Descriptor)) :
    shape.declareAll (f :: rest) = (shape.declare f.name f.hint f.required).declareAll rest := rfl

/-- fields of different new names are declared side by side -/
theorem declareAll_eq_append {shape : Shape Descriptor} {fields : List (Field Descriptor)}
    (hnew : (Entries.keys shape.properties ++ fields.map Field.name).Nodup) :
    shape.declareAll fields =
      ⟨shape.properties ++ fields.map fun f => (f.name, f.hint),
        shape.required ++ (fields.filter Field.required).map Field.name, shape.additional⟩ := by
  induction fields generalizing shape with
  | nil => simp only [declareAll, List.foldl_nil, List.map_nil, List.filter_nil, List.append_nil]
  | cons f rest ih =>
    have hfresh : f.name ∉ Entries.keys shape.properties := fun hmem =>
      (List.nodup_append.1 hnew).2.2 _ hmem _ List.mem_cons_self rfl
    have hdeclares : shape.declares f.name = false := by
      rw [declares, ← Bool.not_eq_true, ← Entries.mem_keys_iff_has]
      exact hfresh
    have hdeclare : shape.declare f.name f.hint f.required =
        ⟨shape.properties ++ [(f.name, f.hint)], shape.required ++ if f.required then [f.name] else [],
          shape.additional⟩ := by
      rw [declare, hdeclares, Entries.put_of_not_mem hfresh]
      cases f.required <;> simp
    have hkeys : Entries.keys (shape.properties ++ [(f.name, f.hint)]) = Entries.keys shape.properties ++ [f.name] :=
      List.map_append
    rw [List.map_cons, List.append_cons] at hnew
    rw [declareAll_cons, hdeclare, ih (by rw [hkeys]; exact hnew)]
    cases hrequired : f.required <;> simp [hrequired]

/-- what an object says after these declarations -/
structure Reflects (closed : Bool) (fields : List (Field Descriptor)) (shape : Shape Descriptor) : Prop where
  lookup_properties : ∀ name, shape.properties.lookup name = (Field.last? name fields).map Field.hint
  mem_required : ∀ name, name ∈ shape.required ↔ ∃ f, Field.last? name fields = some f ∧ f.required = true
  keys_nodup : (Entries.keys shape.properties).Nodup
  required_nodup : shape.required.Nodup
  additional : shape.additional = if closed then .forbidden else .unconstrained

variable {closed : Bool} {fields : List (Field Descriptor)} {shape : Shape Descriptor}

theorem reflects_opening (closed : Bool) : Reflects closed [] (opening closed) where
  lookup_properties _ := rfl
  mem_required name := by simp [opening, empty, Field.last?]
  keys_nodup := List.nodup_nil
  required_nodup := List.nodup_nil
  additional := rfl

namespace Reflects

theorem declares_eq (h : Reflects closed fields shape) (name : String) :
    shape.declares name = (Field.last? name fields).isSome := by
  rw [declares, Entries.has, h.lookup_properties, Option.isSome_map]

theorem declares_of_mem_required (h : Reflects closed fields shape) {name : String} (hname : name ∈ shape.required) :
    shape.declares name = true := by
  obtain ⟨f, hf, -⟩ := (h.mem_required name).1 hname
  rw [h.declares_eq, hf]
  rfl

/-- the names required before a declaration, less the one declared -/
theorem mem_before (h : Reflects closed fields shape) (name k : String) :
    k ∈ (if shape.declares name then shape.required.filter (· != name) else shape.required) ↔
      k ∈ shape.required ∧ k ≠ name := by
  split
  · simp
  · next hdeclares =>
    refine ⟨fun hk => ⟨hk, ?_⟩, And.left⟩
    rintro rfl
    exact hdeclares (h.declares_of_mem_required hk)

theorem declared (h : Reflects closed fields shape) : shape.Declared where
  keys_nodup := h.keys_nodup
  required_nodup := h.required_nodup
  required_declared _ hname := h.declares_of_mem_required hname
  no_values _ type hvalues := by
    rw [h.additional] at hvalues
    cases closed <;> cases hvalues

/-- each property comes from a declaration -/
theorem exists_of_mem_properties (h : Reflects closed fields shape) {p : String × Descriptor}
    (hp : p ∈ shape.properties) : ∃ f, Field.last? p.1 fields = some f ∧ f.hint = p.2 := by
  have hlookup : shape.properties.lookup p.1 = some p.2 := Entries.lookup_of_mem h.keys_nodup hp
  rw [h.lookup_properties, Option.map_eq_some_iff] at hlookup
  exact hlookup

end Reflects

/-- **One declaration.** It decides about its own name and leaves all others as they are. -/
theorem reflects_declare (h : Reflects closed fields shape) (f : Field Descriptor) :
    Reflects closed (fields ++ [f]) (shape.declare f.name f.hint f.required) where
  lookup_properties k := by
    rw [declare, Entries.lookup_put, h.lookup_properties, Field.last?_snoc]
    by_cases hk : k = f.name
    · rw [if_pos hk, if_pos hk.symm]
      rfl
    · rw [if_neg hk, if_neg (Ne.symm hk)]
  mem_required k := by
    rw [Field.last?_snoc]
    have hbefore := h.mem_before f.name k
    by_cases hk : f.name = k
    · subst hk
      cases hrequired : f.required <;> simp [declare, hbefore, hrequired]
    · rw [if_neg hk, ← h.mem_required]
      cases hrequired : f.required <;> simp [declare, hbefore, Ne.symm hk]
  keys_nodup := Entries.nodup_put _ _ _ h.keys_nodup
  required_nodup := by
    have hbefore : (if shape.declares f.name then shape.required.filter (· != f.name) else shape.required).Nodup := by
      split
      · exact h.required_nodup.filter _
      · exact h.required_nodup
    rw [declare]
    cases f.required with
    | false => exact hbefore
    | true =>
      refine List.nodup_append.2 ⟨hbefore, List.pairwise_singleton _ _, ?_⟩
      intro a ha b hb
      rw [List.mem_singleton.1 hb]
      exact ((h.mem_before _ _).1 ha).2
  additional := h.additional

theorem reflects_append (h : Reflects closed fields shape) (rest : List (Field Descriptor)) :
    Reflects closed (fields ++ rest) (shape.declareAll rest) := by
  induction rest generalizing fields shape with
  | nil =>
    rw [List.append_nil]
    exact h
  | cons f rest ih =>
    rw [declareAll_cons, List.append_cons]
    exact ih (reflects_declare h f)

/-- **A run of declarations.** -/
theorem reflects_declareAll (closed : Bool) (fields : List (Field Descriptor)) :
    Reflects closed fields ((opening closed).declareAll fields) :=
  reflects_append (reflects_opening closed) fields

end Shape

namespace Descriptor

theorem normal_object {closed : Bool} {fields : List (Field Descriptor)} (h : ∀ f ∈ fields, Normal f.hint) :
    Normal (.object ((Shape.opening closed).declareAll fields)) := by
  have hreflects := Shape.reflects_declareAll closed fields
  refine .object hreflects.declared ?_ ?_
  · intro p hp
    obtain ⟨f, hf, hhint⟩ := hreflects.exists_of_mem_properties hp
    rw [← hhint]
    exact h f (Field.mem_of_last? hf)
  · intro type hvalues
    rw [hreflects.additional] at hvalues
    cases closed <;> cases hvalues

/-! ## Unions -/

variable {members : List Descriptor} {d x : Descriptor} {v : Json}

/-- the different variants of the members -/
def distinctVariants (members : List Descriptor) : List Descriptor :=
  collect same [] (members.flatMap variants)

theorem accepts_iff_mem_variants : d.Accepts v ↔ ∃ x ∈ d.variants, x.Accepts v := by
  cases d with
  | union vs =>
    constructor
    · intro h
      cases h with
      | union hmem hv => exact ⟨_, hmem, hv⟩
    · rintro ⟨x, hx, hv⟩
      exact .union hx hv
  | _ => simp only [variants, List.mem_singleton, exists_eq_left]

theorem hasUnknown_eq_false_iff_mem_variants : d.hasUnknown = false ↔ ∀ x ∈ d.variants, x.hasUnknown = false := by
  cases d with
  | union vs => exact hasUnknown_union_eq_false
  | _ => simp only [variants, List.mem_singleton, forall_eq]

theorem normal_of_mem_variants (h : d.Normal) (hx : x ∈ d.variants) : x.Normal := by
  cases h with
  | union hseveral hplain hdistinct hvariants => exact hvariants x hx
  | _ =>
    rw [List.mem_singleton.1 hx]
    constructor <;> assumption

theorem isUnion_of_mem_variants (h : d.Normal) (hx : x ∈ d.variants) : x.isUnion = false := by
  cases h with
  | union hseveral hplain hdistinct hvariants => exact (hplain x hx).1
  | _ =>
    rw [List.mem_singleton.1 hx]
    rfl

theorem variants_ne_nil (h : d.Normal) : d.variants ≠ [] := by
  cases h with
  | union hseveral hplain hdistinct hvariants => exact List.ne_nil_of_length_pos (Nat.lt_of_lt_of_le Nat.two_pos hseveral)
  | _ => exact List.cons_ne_nil _ _

/-- a different variant is a variant of a member -/
theorem exists_of_mem_distinctVariants (hx : x ∈ distinctVariants members) : ∃ d ∈ members, x ∈ d.variants := by
  rcases mem_of_mem_collect hx with hx | hx
  · simp at hx
  · exact List.mem_flatMap.1 hx

/-- a variant of a member has an equal among the different ones, if it is not one of them -/
theorem mem_distinctVariants_or_same (hd : d ∈ members) (hx : x ∈ d.variants) :
    x ∈ distinctVariants members ∨ ∃ y ∈ distinctVariants members, y.same x = true :=
  mem_collect_or_same (List.mem_flatMap.2 ⟨d, hd, hx⟩)

/-- the three forms of a union -/
theorem ofVariants_cases (members : List Descriptor) :
    (ofVariants members = .unknown ∧ (distinctVariants members).any isUnknown = true) ∨
      (∃ d, ofVariants members = d ∧ distinctVariants members = [d] ∧ d.isUnknown = false) ∨
      (ofVariants members = .union (distinctVariants members) ∧ (distinctVariants members).length ≠ 1 ∧
        ∀ d ∈ distinctVariants members, d.isUnknown = false) := by
  have hdistinct : (members.flatMap variants).foldl addVariant [] = distinctVariants members := rfl
  simp only [ofVariants, hdistinct]
  by_cases hany : (distinctVariants members).any isUnknown = true
  · exact .inl ⟨if_pos hany, hany⟩
  · have hknown : ∀ d ∈ distinctVariants members, d.isUnknown = false := by simpa using hany
    refine .inr ?_
    rw [if_neg hany]
    cases hlist : distinctVariants members with
    | nil => exact .inr ⟨rfl, by simp, by simp⟩
    | cons d rest =>
      rw [hlist] at hknown
      cases rest with
      | nil => exact .inl ⟨d, rfl, rfl, hknown d List.mem_cons_self⟩
      | cons next rest => exact .inr ⟨rfl, by simp, hknown⟩

/-- what a different variant accepts, the union accepts -/
theorem accepts_of_mem_distinctVariants (hx : x ∈ distinctVariants members) (hv : x.Accepts v) :
    (ofVariants members).Accepts v := by
  rcases ofVariants_cases members with ⟨heq, -⟩ | ⟨d, heq, hdistinct, -⟩ | ⟨heq, -⟩
  · rw [heq]
    exact .unknown v
  · rw [hdistinct, List.mem_singleton] at hx
    rw [heq, ← hx]
    exact hv
  · rw [heq]
    exact .union hx hv

theorem accepts_ofVariants (hnormal : ∀ d ∈ members, d.Normal) (hd : d ∈ members) (hv : d.Accepts v) :
    (ofVariants members).Accepts v := by
  obtain ⟨x, hx, hxv⟩ := accepts_iff_mem_variants.1 hv
  rcases mem_distinctVariants_or_same hd hx with hmem | ⟨y, hy, hsame⟩
  · exact accepts_of_mem_distinctVariants hmem hxv
  · obtain ⟨d', hd', hyd'⟩ := exists_of_mem_distinctVariants hy
    have hyv : y.Accepts v := accepts_of_same (normal_of_mem_variants (hnormal d' hd') hyd') hsame hxv
    exact accepts_of_mem_distinctVariants hy hyv

theorem hasUnknown_of_mem_distinctVariants (h : (ofVariants members).hasUnknown = false)
    (hx : x ∈ distinctVariants members) : x.hasUnknown = false := by
  rcases ofVariants_cases members with ⟨heq, -⟩ | ⟨d, heq, hdistinct, -⟩ | ⟨heq, -⟩
  · rw [heq] at h
    cases h
  · rw [hdistinct, List.mem_singleton] at hx
    rw [hx, ← heq]
    exact h
  · rw [heq, hasUnknown_union_eq_false] at h
    exact h x hx

theorem hasUnknown_of_ofVariants (hnormal : ∀ d ∈ members, d.Normal) (h : (ofVariants members).hasUnknown = false)
    (hd : d ∈ members) : d.hasUnknown = false := by
  rw [hasUnknown_eq_false_iff_mem_variants]
  intro x hx
  rcases mem_distinctVariants_or_same hd hx with hmem | ⟨y, hy, hsame⟩
  · exact hasUnknown_of_mem_distinctVariants h hmem
  · obtain ⟨d', hd', hyd'⟩ := exists_of_mem_distinctVariants hy
    exact hasUnknown_of_same (normal_of_mem_variants (hnormal d' hd') hyd') (normal_of_mem_variants (hnormal d hd) hx)
      hsame (hasUnknown_of_mem_distinctVariants h hy)

/-- what is unknown in a union is so in one of its members -/
theorem exists_hasUnknown_of_ofVariants (h : (ofVariants members).hasUnknown = true) :
    ∃ d ∈ members, d.hasUnknown = true := by
  have hvariant : ∃ x ∈ distinctVariants members, x.hasUnknown = true := by
    rcases ofVariants_cases members with ⟨-, hany⟩ | ⟨d, heq, hdistinct, -⟩ | ⟨heq, -⟩
    · obtain ⟨x, hx, hxu⟩ := List.any_eq_true.1 hany
      cases x with
      | unknown => exact ⟨.unknown, hx, rfl⟩
      | _ => cases hxu
    · exact ⟨d, by rw [hdistinct]; exact List.mem_cons_self, heq ▸ h⟩
    · rw [heq, hasUnknown, anyUnknown_eq_any] at h
      exact List.any_eq_true.1 h
  obtain ⟨x, hx, hxu⟩ := hvariant
  obtain ⟨d, hd, hxd⟩ := exists_of_mem_distinctVariants hx
  refine ⟨d, hd, ?_⟩
  rw [← Bool.not_eq_false, hasUnknown_eq_false_iff_mem_variants]
  intro hknown
  rw [hknown x hxd] at hxu
  cases hxu

/-- what is unknown in an object is so in one of the fields that were declared -/
theorem exists_hasUnknown_of_declareAll {closed : Bool} {fields : List (Field Descriptor)}
    (h : (object ((Shape.opening closed).declareAll fields)).hasUnknown = true) :
    ∃ f ∈ fields, f.hint.hasUnknown = true := by
  have hreflects := Shape.reflects_declareAll closed fields
  by_contra hnone
  push Not at hnone
  rw [← Bool.not_eq_false] at h
  refine h (hasUnknown_object_eq_false.2 ⟨fun p hp => ?_, fun type htype => ?_⟩)
  · obtain ⟨f, hf, hhint⟩ := hreflects.exists_of_mem_properties hp
    rw [← hhint, ← Bool.not_eq_true]
    exact hnone f (Field.mem_of_last? hf)
  · rw [hreflects.additional] at htype
    cases closed <;> cases htype

theorem exists_accepts_of_ofVariants (h : (ofVariants members).hasUnknown = false)
    (hv : (ofVariants members).Accepts v) : ∃ d ∈ members, d.Accepts v := by
  have hvariant : ∃ x ∈ distinctVariants members, x.Accepts v := by
    rcases ofVariants_cases members with ⟨heq, -⟩ | ⟨d, heq, hdistinct, -⟩ | ⟨heq, -⟩
    · rw [heq] at h
      cases h
    · rw [heq] at hv
      exact ⟨d, by rw [hdistinct]; exact List.mem_cons_self, hv⟩
    · rw [heq] at hv
      cases hv with
      | union hmem hv => exact ⟨_, hmem, hv⟩
  obtain ⟨x, hx, hxv⟩ := hvariant
  obtain ⟨d, hd, hxd⟩ := exists_of_mem_distinctVariants hx
  exact ⟨d, hd, accepts_iff_mem_variants.2 ⟨x, hxd, hxv⟩⟩

theorem normal_ofVariants (hne : members ≠ []) (hnormal : ∀ d ∈ members, d.Normal) : (ofVariants members).Normal := by
  have hvariant : ∀ x ∈ distinctVariants members, x.Normal ∧ x.isUnion = false := by
    intro x hx
    obtain ⟨d, hd, hxd⟩ := exists_of_mem_distinctVariants hx
    exact ⟨normal_of_mem_variants (hnormal d hd) hxd, isUnion_of_mem_variants (hnormal d hd) hxd⟩
  rcases ofVariants_cases members with ⟨heq, -⟩ | ⟨d, heq, hdistinct, -⟩ | ⟨heq, hlength, hknown⟩
  · rw [heq]
    exact .unknown
  · rw [heq]
    exact (hvariant d (by rw [hdistinct]; exact List.mem_cons_self)).1
  · have hsome : distinctVariants members ≠ [] := by
      obtain ⟨d, rest, rfl⟩ := List.exists_cons_of_ne_nil hne
      have hd : d.variants ≠ [] := variants_ne_nil (hnormal d List.mem_cons_self)
      refine collect_ne_nil fun hnil => hd ?_
      exact (List.append_eq_nil_iff.1 hnil).1
    have hpos := List.length_pos_iff.2 hsome
    rw [heq]
    exact .union (by omega) (fun x hx => ⟨(hvariant x hx).2, hknown x hx⟩) (pairwise_collect List.Pairwise.nil)
      fun x hx => (hvariant x hx).1

end Descriptor

end ToolSchema
