/-
The normal form of descriptors, and what their equality preserves there.

`Normal` says what resolution makes sure of at every node: a union has several variants, all different and none of them
a union or unknown; an enumeration has values, all different and all scalar; an object declares each property once and
requires only declared ones. Equality ignores the order of properties. On normal descriptors it is sound:
- `accepts_of_same`: what equals a type accepts its values.
- `hasUnknown_of_same`: what equals a type without unknown parts has none.
-/
import Mathlib.Data.List.Perm.Subperm
import ToolSchema.Proofs.Descriptor.Accepts
import ToolSchema.Proofs.Entries
import ToolSchema.Proofs.Json.Same

namespace ToolSchema

/-- each property is declared once, the required ones are among them, and beside properties there is no value type -/
structure Shape.Declared (shape : Shape Descriptor) : Prop where
  keys_nodup : (Entries.keys shape.properties).Nodup
  required_nodup : shape.required.Nodup
  required_declared : ∀ name ∈ shape.required, Entries.has name shape.properties = true
  no_values : shape.properties ≠ [] → ∀ type, shape.additional ≠ .values type

namespace Descriptor

def isUnion : Descriptor → Bool
  | .union _ => true
  | _ => false

/-! ## Normal form -/

inductive Normal : Descriptor → Prop
  | primitive (kind : Kind) : Normal (.primitive kind)
  | array {item : Descriptor} (hitem : Normal item) : Normal (.array item)
  | object {shape : Shape Descriptor} (hshape : shape.Declared) (hproperties : ∀ p ∈ shape.properties, Normal p.2)
    (hvalues : ∀ type, shape.additional = .values type → Normal type) : Normal (.object shape)
  | enum {values : List Json} (hne : values ≠ []) (hscalar : ∀ v ∈ values, v.isScalar = true)
    (hdistinct : values.Pairwise fun u v => u.same v = false) : Normal (.enum values)
  | union {variants : List Descriptor} (hseveral : 2 ≤ variants.length)
    (hplain : ∀ d ∈ variants, d.isUnion = false ∧ d.isUnknown = false)
    (hdistinct : variants.Pairwise fun a b => a.same b = false) (hvariants : ∀ d ∈ variants, Normal d) :
    Normal (.union variants)
  | unknown : Normal .unknown

/-! ## Unknown parts -/

mutual

/-- an unknown type occurs somewhere in the descriptor -/
def hasUnknown : Descriptor → Bool
  | .array item => hasUnknown item
  | .object ⟨properties, _, additional⟩ => anyPropertyUnknown properties || additionalUnknown additional
  | .union variants => anyUnknown variants
  | .unknown => true
  | _ => false

def anyUnknown : List Descriptor → Bool
  | [] => false
  | d :: rest => hasUnknown d || anyUnknown rest

def anyPropertyUnknown : List (String × Descriptor) → Bool
  | [] => false
  | (_, d) :: rest => hasUnknown d || anyPropertyUnknown rest

def additionalUnknown : Additional Descriptor → Bool
  | .values type => hasUnknown type
  | _ => false

end

theorem anyUnknown_eq_any (variants : List Descriptor) : anyUnknown variants = variants.any hasUnknown := by
  induction variants with
  | nil => rfl
  | cons d rest ih => simp only [anyUnknown, ih, List.any_cons]

theorem anyPropertyUnknown_eq_any (properties : List (String × Descriptor)) :
    anyPropertyUnknown properties = properties.any fun p => p.2.hasUnknown := by
  induction properties with
  | nil => rfl
  | cons p rest ih => simp only [anyPropertyUnknown, ih, List.any_cons]

theorem hasUnknown_union_eq_false {variants : List Descriptor} :
    (union variants).hasUnknown = false ↔ ∀ d ∈ variants, d.hasUnknown = false := by
  simp only [hasUnknown, anyUnknown_eq_any, List.any_eq_false, Bool.not_eq_true]

theorem hasUnknown_object_eq_false {shape : Shape Descriptor} :
    (object shape).hasUnknown = false ↔ (∀ p ∈ shape.properties, p.2.hasUnknown = false) ∧
      ∀ type, shape.additional = .values type → type.hasUnknown = false := by
  obtain ⟨properties, required, additional⟩ := shape
  simp only [hasUnknown, anyPropertyUnknown_eq_any, Bool.or_eq_false_iff, List.any_eq_false, Bool.not_eq_true]
  cases additional <;> simp [additionalUnknown]

/-! ## Equality -/

theorem exists_of_sameProperties {as bs : List (String × Descriptor)} (h : sameProperties as bs = true)
    {p : String × Descriptor} (hp : p ∈ as) : ∃ b, bs.lookup p.1 = some b ∧ p.2.same b = true := by
  induction as with
  | nil => simp at hp
  | cons q rest ih =>
    obtain ⟨name, a⟩ := q
    simp only [sameProperties, Bool.and_eq_true] at h
    rcases List.mem_cons.1 hp with rfl | hp
    · cases hlookup : bs.lookup name with
      | none => simp [hlookup] at h
      | some b => exact ⟨b, rfl, by simpa [hlookup] using h.1⟩
    · exact ih h.2 hp

theorem exists_of_sameVariants {as bs : List Descriptor} (h : sameVariants as bs = true) {b : Descriptor}
    (hb : b ∈ bs) : ∃ a ∈ as, a.same b = true := by
  induction as generalizing bs with
  | nil =>
    cases bs with
    | nil => simp at hb
    | cons b' bs => simp [sameVariants] at h
  | cons a as ih =>
    cases bs with
    | nil => simp at hb
    | cons b' bs =>
      simp only [sameVariants, Bool.and_eq_true] at h
      rcases List.mem_cons.1 hb with rfl | hb
      · exact ⟨a, List.mem_cons_self, h.1⟩
      · obtain ⟨a', ha', hsame⟩ := ih h.2 hb
        exact ⟨a', List.mem_cons_of_mem a ha', hsame⟩

theorem sameAdditional_cases {x y : Additional Descriptor} (h : sameAdditional x y = true) :
    (x = .unconstrained ∧ y = .unconstrained) ∨ (x = .forbidden ∧ y = .forbidden) ∨
      ∃ a b, x = .values a ∧ y = .values b ∧ a.same b = true := by
  cases x <;> cases y <;> simp [sameAdditional] at h ⊢
  exact h

/-- what equality of two objects says, part by part -/
structure SameShape (s t : Shape Descriptor) : Prop where
  length_eq : s.properties.length = t.properties.length
  properties : ∀ p ∈ s.properties, ∃ b, t.properties.lookup p.1 = some b ∧ p.2.same b = true
  required : s.required = t.required
  additional : sameAdditional s.additional t.additional = true

theorem sameShape_of_same {s t : Shape Descriptor} (h : (object s).same (.object t) = true) : SameShape s t := by
  obtain ⟨properties, required, additional⟩ := s
  simp only [same, Bool.and_eq_true, beq_iff_eq] at h
  obtain ⟨⟨⟨hlength, hproperties⟩, hrequired⟩, hadditional⟩ := h
  exact ⟨hlength, fun p hp => exists_of_sameProperties hproperties hp, hrequired, hadditional⟩

namespace SameShape

variable {s t : Shape Descriptor}

/-- both objects declare the same names: there are equally many, and none of the first is missing in the second -/
theorem keys_perm (h : SameShape s t) (hs : s.Declared) :
    (Entries.keys s.properties).Perm (Entries.keys t.properties) := by
  have hsubset : Entries.keys s.properties ⊆ Entries.keys t.properties := by
    intro name hname
    obtain ⟨p, hp, rfl⟩ := List.mem_map.1 hname
    obtain ⟨b, hlookup, -⟩ := h.properties p hp
    rw [Entries.mem_keys_iff_has, Entries.has, hlookup]
    rfl
  refine (List.subperm_of_subset hs.keys_nodup hsubset).perm_of_length_le (Nat.le_of_eq ?_)
  simp only [Entries.keys, List.length_map, h.length_eq]

theorem has_eq (h : SameShape s t) (hs : s.Declared) (name : String) :
    Entries.has name s.properties = Entries.has name t.properties := by
  rw [Bool.eq_iff_iff, ← Entries.mem_keys_iff_has, ← Entries.mem_keys_iff_has]
  exact (h.keys_perm hs).mem_iff

/-- every property of the second object has its counterpart in the first -/
theorem exists_property (h : SameShape s t) (hs : s.Declared) (ht : t.Declared) {p : String × Descriptor}
    (hp : p ∈ t.properties) : ∃ q ∈ s.properties, q.1 = p.1 ∧ q.2.same p.2 = true := by
  have hhas : Entries.has p.1 s.properties = true := (h.has_eq hs p.1).trans (Entries.has_of_mem hp)
  obtain ⟨a, ha⟩ := Entries.exists_mem_of_has hhas
  obtain ⟨b, hlookup, hsame⟩ := h.properties (p.1, a) ha
  have hb : t.properties.lookup p.1 = some p.2 := Entries.lookup_of_mem ht.keys_nodup hp
  cases hlookup.symm.trans hb
  exact ⟨(p.1, a), ha, rfl, hsame⟩

theorem values_left (h : SameShape s t) {a : Descriptor} (ha : s.additional = .values a) :
    ∃ b, t.additional = .values b ∧ a.same b = true := by
  rcases sameAdditional_cases h.additional with ⟨hs, -⟩ | ⟨hs, -⟩ | ⟨a', b, hs, ht, hab⟩
  · cases hs.symm.trans ha
  · cases hs.symm.trans ha
  · cases hs.symm.trans ha
    exact ⟨b, ht, hab⟩

theorem values_right (h : SameShape s t) {b : Descriptor} (hb : t.additional = .values b) :
    ∃ a, s.additional = .values a ∧ a.same b = true := by
  rcases sameAdditional_cases h.additional with ⟨-, ht⟩ | ⟨-, ht⟩ | ⟨a, b', hs, ht, hab⟩
  · cases ht.symm.trans hb
  · cases ht.symm.trans hb
  · cases ht.symm.trans hb
    exact ⟨a, hs, hab⟩

theorem forbidden_left (h : SameShape s t) (hforbidden : s.additional = .forbidden) : t.additional = .forbidden := by
  rcases sameAdditional_cases h.additional with ⟨hs, -⟩ | ⟨-, ht⟩ | ⟨a, b, hs, -, -⟩
  · cases hs.symm.trans hforbidden
  · exact ht
  · cases hs.symm.trans hforbidden

theorem properties_eq_nil (h : SameShape s t) : s.properties = [] ↔ t.properties = [] := by
  rw [← List.length_eq_zero_iff, ← List.length_eq_zero_iff, h.length_eq]

/-- equal objects have equal values if that holds for the types inside -/
theorem accepts (h : SameShape s t) (hs : s.Declared) {v : Json} (ht : Accepts (.object t) v)
    (hproperties : ∀ p ∈ s.properties, ∀ b w, p.2.same b = true → b.Accepts w → p.2.Accepts w)
    (hvalues : ∀ a, s.additional = .values a → ∀ b w, a.same b = true → b.Accepts w → a.Accepts w) :
    Accepts (.object s) v := by
  cases ht with
  | object tproperties trequired tvalues tforbidden =>
    refine .object ?_ ?_ ?_ ?_
    · intro p hp m hm hname
      obtain ⟨b, hlookup, hpb⟩ := h.properties p hp
      exact hproperties p hp b m.2 hpb (tproperties (p.1, b) (Entries.mem_of_lookup hlookup) m hm hname)
    · intro hne name hname
      exact trequired (fun hnil => hne (h.properties_eq_nil.2 hnil)) name (h.required ▸ hname)
    · intro a ha m hm hundeclared
      obtain ⟨b, hb, hab⟩ := h.values_left ha
      rw [h.has_eq hs] at hundeclared
      exact hvalues a ha b m.2 hab (tvalues b hb m hm hundeclared)
    · intro hforbidden m hm
      rw [h.has_eq hs]
      exact tforbidden (h.forbidden_left hforbidden) m hm

end SameShape

/-! ## What equality preserves -/

/-- **Equal types have equal values**, as far as a repeat is concerned: what the first of two equal types leaves out, the
second leaves out as well. -/
theorem accepts_of_same {a b : Descriptor} {v : Json} (ha : a.Normal) (h : a.same b = true) (hb : b.Accepts v) :
    a.Accepts v := by
  induction a using Descriptor.induct generalizing b v with
  | primitive kind =>
    cases b with
    | primitive kind' =>
      simp only [same, beq_iff_eq] at h
      exact h ▸ hb
    | _ => simp [same] at h
  | array item ih =>
    cases b with
    | array item' =>
      cases ha with
      | array hitem =>
        cases hb with
        | array hitems => exact .array fun w hw => ih hitem (by simpa only [same] using h) (hitems w hw)
    | _ => simp [same] at h
  | object s ihproperties ihvalues =>
    cases b with
    | object t =>
      cases ha with
      | object hshape hproperties hvalues =>
        exact (sameShape_of_same h).accepts hshape hb
          (fun p hp _ _ hpb hw => ihproperties p hp (hproperties p hp) hpb hw)
          (fun a ha _ _ hab hw => ihvalues a ha (hvalues a ha) hab hw)
    | _ => simp [same] at h
  | enum values =>
    cases b with
    | enum values' =>
      cases ha with
      | enum hne hscalar hdistinct =>
        cases hb with
        | enum hmem hv =>
          obtain ⟨u, hu, huw⟩ := Json.exists_same_of_mem_right (by simpa only [same] using h) hmem
          exact .enum hu (Json.same_trans (hscalar u hu) huw hv)
    | _ => simp [same] at h
  | union variants ih =>
    cases b with
    | union variants' =>
      cases ha with
      | union hseveral hplain hdistinct hvariants =>
        cases hb with
        | union hmem hv =>
          obtain ⟨d, hd, hsame⟩ := exists_of_sameVariants (by simpa only [same] using h) hmem
          exact .union hd (ih d hd (hvariants d hd) hsame hv)
    | _ => simp [same] at h
  | unknown => exact .unknown v

/-- equal types are unknown in corresponding parts -/
theorem hasUnknown_of_same {a b : Descriptor} (ha : a.Normal) (hb : b.Normal) (h : a.same b = true)
    (hknown : a.hasUnknown = false) : b.hasUnknown = false := by
  induction a using Descriptor.induct generalizing b with
  | primitive kind =>
    cases b with
    | primitive kind' => rfl
    | _ => simp [same] at h
  | array item ih =>
    cases b with
    | array item' =>
      cases ha with
      | array hitem =>
        cases hb with
        | array hitem' =>
          simp only [hasUnknown] at hknown ⊢
          exact ih hitem hitem' (by simpa only [same] using h) hknown
    | _ => simp [same] at h
  | object s ihproperties ihvalues =>
    cases b with
    | object t =>
      have hsame := sameShape_of_same h
      cases ha with
      | object hs sproperties svalues =>
        cases hb with
        | object ht tproperties tvalues =>
          rw [hasUnknown_object_eq_false] at hknown ⊢
          refine ⟨fun p hp => ?_, fun b hb => ?_⟩
          · obtain ⟨q, hq, -, hqp⟩ := hsame.exists_property hs ht hp
            exact ihproperties q hq (sproperties q hq) (tproperties p hp) hqp (hknown.1 q hq)
          · obtain ⟨a, ha, hab⟩ := hsame.values_right hb
            exact ihvalues a ha (svalues a ha) (tvalues b hb) hab (hknown.2 a ha)
    | _ => simp [same] at h
  | enum values =>
    cases b with
    | enum values' => rfl
    | _ => simp [same] at h
  | union variants ih =>
    cases b with
    | union variants' =>
      cases ha with
      | union hseveral hplain hdistinct hvariants =>
        cases hb with
        | union hseveral' hplain' hdistinct' hvariants' =>
          rw [hasUnknown_union_eq_false] at hknown ⊢
          intro b hb
          obtain ⟨a, ha, hab⟩ := exists_of_sameVariants (by simpa only [same] using h) hb
          exact ih a ha (hvariants a ha) (hvariants' b hb) hab (hknown a ha)
    | _ => simp [same] at h
  | unknown => simp [hasUnknown] at hknown

end Descriptor

end ToolSchema
