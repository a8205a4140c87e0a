/-
The nodes of a descriptor, and what resolution makes sure of at each of them.

`Occurs node d` says that the node is a part of d, or d itself; `WellFormed` is what a node is to satisfy beyond its
constructor. Both speak of one node at a time, where `Normal` goes through the whole descriptor. That variants differ
is said both ways round, which is the same for normal descriptors: their equality is symmetric (`same_symm`). It is
reflexive as well (`same_refl`).

- `Normal.of_occurs` and `Normal.wellFormed`: the nodes of a normal descriptor are normal, and so they are well formed.
- `resolve_wellFormed`: every node of an answer is well formed.
-/
import ToolSchema.Proofs.Resolve.Resolves

namespace ToolSchema

theorem Json.sameItems_symm {us vs : List Json} (hscalar : ∀ u ∈ us, u.isScalar = true)
    (h : sameItems us vs = true) : sameItems vs us = true := by
  induction us generalizing vs with
  | nil =>
    cases vs with
    | nil => rfl
    | cons v vs => simp [sameItems] at h
  | cons u us ih =>
    cases vs with
    | nil => simp [sameItems] at h
    | cons v vs =>
      rw [List.forall_mem_cons] at hscalar
      simp only [sameItems, Bool.and_eq_true] at h ⊢
      exact ⟨same_symm hscalar.1 h.1, ih hscalar.2 h.2⟩

theorem Json.sameItems_refl {values : List Json} (hscalar : ∀ v ∈ values, v.isScalar = true) :
    sameItems values values = true := by
  induction values with
  | nil => rfl
  | cons v rest ih =>
    rw [List.forall_mem_cons] at hscalar
    simp only [sameItems, same_refl hscalar.1, ih hscalar.2, Bool.and_self]

namespace Descriptor

/-! ## Equality is reflexive and symmetric -/

theorem sameProperties_of_forall {as bs : List (String × Descriptor)}
    (h : ∀ p ∈ as, ∃ b, bs.lookup p.1 = some b ∧ p.2.same b = true) : sameProperties as bs = true := by
  induction as with
  | nil => rfl
  | cons p rest ih =>
    rw [List.forall_mem_cons] at h
    obtain ⟨⟨b, hlookup, hsame⟩, hrest⟩ := h
    simp only [sameProperties, hlookup, hsame, ih hrest, Bool.and_self]

theorem sameVariants_refl {variants : List Descriptor} (h : ∀ d ∈ variants, d.same d = true) :
    sameVariants variants variants = true := by
  induction variants with
  | nil => rfl
  | cons d rest ih =>
    rw [List.forall_mem_cons] at h
    simp only [sameVariants, h.1, ih h.2, Bool.and_self]

theorem same_refl {d : Descriptor} (h : d.Normal) : d.same d = true := by
  induction d using Descriptor.induct with
  | primitive kind => simp only [same, beq_self_eq_true]
  | array item ih =>
    cases h with
    | array hitem => exact ih hitem
  | object shape ihproperties ihvalues =>
    cases h with
    | object hshape hproperties hvalues =>
      obtain ⟨properties, required, additional⟩ := shape
      have hsame : sameProperties properties properties = true := by
        apply sameProperties_of_forall
        intro p hp
        exact ⟨p.2, Entries.lookup_of_mem hshape.keys_nodup hp, ihproperties p hp (hproperties p hp)⟩
      have hadditional : sameAdditional additional additional = true := by
        cases additional with
        | values type => exact ihvalues type rfl (hvalues type rfl)
        | _ => rfl
      simp only [same, hsame, hadditional, beq_self_eq_true, Bool.and_self]
  | enum values =>
    cases h with
    | enum hne hscalar hdistinct => exact Json.sameItems_refl hscalar
  | union variants ih =>
    cases h with
    | union hseveral hplain hdistinct hvariants => exact sameVariants_refl fun d hd => ih d hd (hvariants d hd)
  | unknown => rfl

theorem sameVariants_symm {as bs : List Descriptor}
    (hsymm : ∀ a ∈ as, ∀ b ∈ bs, a.same b = true → b.same a = true) (h : sameVariants as bs = true) :
    sameVariants bs as = true := by
  induction as generalizing bs with
  | nil =>
    cases bs with
    | nil => rfl
    | cons b bs => simp [sameVariants] at h
  | cons a as ih =>
    cases bs with
    | nil => simp [sameVariants] at h
    | cons b bs =>
      simp only [sameVariants, Bool.and_eq_true] at h ⊢
      refine ⟨hsymm a List.mem_cons_self b List.mem_cons_self h.1, ih ?_ h.2⟩
      intro a' ha' b' hb'
      exact hsymm a' (List.mem_cons_of_mem a ha') b' (List.mem_cons_of_mem b hb')

/-- objects are equal the other way round if that goes for the types inside -/
theorem SameShape.same_symm {s t : Shape Descriptor} (h : SameShape s t) (hs : s.Declared) (ht : t.Declared)
    (hproperties : ∀ p ∈ s.properties, ∀ q ∈ t.properties, p.2.same q.2 = true → q.2.same p.2 = true)
    (hvalues : ∀ a b, s.additional = .values a → t.additional = .values b → a.same b = true → b.same a = true) :
    (object t).same (.object s) = true := by
  obtain ⟨tproperties, trequired, tadditional⟩ := t
  have hsame : sameProperties tproperties s.properties = true := by
    apply sameProperties_of_forall
    intro q hq
    obtain ⟨p, hp, hname, hpq⟩ := h.exists_property hs ht hq
    exact ⟨p.2, hname ▸ Entries.lookup_of_mem hs.keys_nodup hp, hproperties p hp q hq hpq⟩
  have hadditional : sameAdditional tadditional s.additional = true := by
    rcases sameAdditional_cases h.additional with ⟨hs', ht'⟩ | ⟨hs', ht'⟩ | ⟨a, b, hs', ht', hab⟩
    · rw [hs', show tadditional = .unconstrained from ht']
      rfl
    · rw [hs', show tadditional = .forbidden from ht']
      rfl
    · rw [hs', show tadditional = .values b from ht']
      exact hvalues a b hs' ht' hab
  simp only [same, hsame, hadditional, h.length_eq, h.required, beq_self_eq_true, Bool.and_self]

theorem same_symm {a b : Descriptor} (ha : a.Normal) (hb : b.Normal) (h : a.same b = true) : b.same a = true := by
  induction a using Descriptor.induct generalizing b with
  | primitive kind =>
    cases b with
    | primitive kind' =>
      simp only [same, beq_iff_eq] at h ⊢
      exact h.symm
    | _ => simp [same] at h
  | array item ih =>
    cases b with
    | array item' =>
      cases ha with
      | array hitem =>
        cases hb with
        | array hitem' =>
          simp only [same] at h ⊢
          exact ih hitem hitem' h
    | _ => simp [same] at h
  | object s ihproperties ihvalues =>
    cases b with
    | object t =>
      cases ha with
      | object hs sproperties svalues =>
        cases hb with
        | object ht tproperties tvalues =>
          refine (sameShape_of_same h).same_symm hs ht ?_ ?_
          · intro p hp q hq hpq
            exact ihproperties p hp (sproperties p hp) (tproperties q hq) hpq
          · intro a b ha hb hab
            exact ihvalues a ha (svalues a ha) (tvalues b hb) hab
    | _ => simp [same] at h
  | enum values =>
    cases b with
    | enum values' =>
      cases ha with
      | enum hne hscalar hdistinct =>
        simp only [same] at h ⊢
        exact Json.sameItems_symm hscalar h
    | _ => simp [same] at h
  | union variants ih =>
    cases b with
    | union variants' =>
      cases ha with
      | union hseveral hplain hdistinct hvariants =>
        cases hb with
        | union hseveral' hplain' hdistinct' hvariants' =>
          simp only [same] at h ⊢
          exact sameVariants_symm (fun a ha b hb hab => ih a ha (hvariants a ha) (hvariants' b hb) hab) h
    | _ => simp [same] at h
  | unknown =>
    cases b with
    | unknown => rfl
    | _ => simp [same] at h

/-! ## Nodes -/

/-- the node is the descriptor itself or a part of it -/
inductive Occurs (node : Descriptor) : Descriptor → Prop
  | self : Occurs node node
  | item {item : Descriptor} (h : Occurs node item) : Occurs node (.array item)
  | property {shape : Shape Descriptor} {p : String × Descriptor} (hp : p ∈ shape.properties) (h : Occurs node p.2) :
    Occurs node (.object shape)
  | values {shape : Shape Descriptor} {type : Descriptor} (htype : shape.additional = .values type)
    (h : Occurs node type) : Occurs node (.object shape)
  | variant {variants : List Descriptor} {d : Descriptor} (hd : d ∈ variants) (h : Occurs node d) :
    Occurs node (.union variants)

/-- what is to hold at a node -/
def WellFormed : Descriptor → Prop
  | .union variants =>
    2 ≤ variants.length ∧ (∀ d ∈ variants, d.isUnion = false ∧ d.isUnknown = false) ∧
      variants.Pairwise fun a b => a.same b = false ∧ b.same a = false
  | .enum values =>
    values ≠ [] ∧ (∀ v ∈ values, v.isScalar = true) ∧ values.Pairwise fun u v => u.same v = false ∧ v.same u = false
  | .object shape =>
    (Entries.keys shape.properties).Nodup ∧ shape.required.Nodup ∧
      (∀ name ∈ shape.required, name ∈ Entries.keys shape.properties) ∧
      (shape.properties ≠ [] → ∀ type, shape.additional ≠ .values type)
  | _ => True

theorem Normal.wellFormed {d : Descriptor} (h : d.Normal) : d.WellFormed := by
  cases h with
  | primitive kind => trivial
  | array hitem => trivial
  | object hshape hproperties hvalues =>
    refine ⟨hshape.keys_nodup, hshape.required_nodup, fun name hname => ?_, hshape.no_values⟩
    rw [Entries.mem_keys_iff_has]
    exact hshape.required_declared name hname
  | enum hne hscalar hdistinct =>
    refine ⟨hne, hscalar, hdistinct.imp_of_mem fun {u v} _ hv huv => ⟨huv, ?_⟩⟩
    rw [Bool.eq_false_iff] at huv ⊢
    exact fun hvu => huv (Json.same_symm (hscalar v hv) hvu)
  | union hseveral hplain hdistinct hvariants =>
    refine ⟨hseveral, hplain, hdistinct.imp_of_mem fun {a b} ha hb hab => ⟨hab, ?_⟩⟩
    rw [Bool.eq_false_iff] at hab ⊢
    exact fun hba => hab (same_symm (hvariants b hb) (hvariants a ha) hba)
  | unknown => trivial

/-- what is normal is so in each part -/
theorem Normal.of_occurs {node d : Descriptor} (hd : d.Normal) (h : Occurs node d) : node.Normal := by
  induction h with
  | self => exact hd
  | item h ih =>
    cases hd with
    | array hitem => exact ih hitem
  | property hp h ih =>
    cases hd with
    | object hshape hproperties hvalues => exact ih (hproperties _ hp)
  | values htype h ih =>
    cases hd with
    | object hshape hproperties hvalues => exact ih (hvalues _ htype)
  | variant hd' h ih =>
    cases hd with
    | union hseveral hplain hdistinct hvariants => exact ih (hvariants _ hd')

end Descriptor

/-- **Every node of an answer is well formed**, for every registry and whatever is under expansion. -/
theorem resolve_wellFormed (r : Registry) (seen : List String) (h : Hint) (node : Descriptor)
    (hnode : node.Occurs (resolve r seen h).value) : node.WellFormed := by
  have hnormal : (resolve r seen h).value.Normal := (resolve_resolves r seen h).normal
  exact (hnormal.of_occurs hnode).wellFormed

/-- a scalar is text or an integer -/
def scalars : Registry :=
  Registry.empty.put "Scalar" (.union [.string, .integer])

/-- a list of scalars, of which some are missing -/
def scalarList : Hint :=
  .array (some (.union [.named "Scalar", .optional .string]))

theorem resolve_scalarList :
    (resolve scalars [] scalarList).value =
      .array (.union [.primitive .string, .primitive .integer, .primitive .null]) := by
  have hget : scalars.get? "Scalar" = some (.union [.string, .integer]) := rfl
  have hpair : (Hint.union [.string, .integer]).members = [.string, .integer] := rfl
  have hmembers : (Hint.union [.named "Scalar", .optional .string]).members = [.named "Scalar", .string, .null] := rfl
  have hscalar : (resolve scalars [] (.named "Scalar")).value = .union [.primitive .string, .primitive .integer] := by
    rw [resolve_named List.not_mem_nil hget]
    simp only [Hint.recordOf?]
    rw [resolve, hpair, resolveUnion_value (by decide)]
    simp only [List.map_cons, List.map_nil, resolve]
    rfl
  have hstring : (resolve scalars [] .string).value = .primitive .string := by
    rw [resolve]
    rfl
  have hnull : (resolve scalars [] .null).value = .primitive .null := by
    rw [resolve]
    rfl
  rw [scalarList, resolve, Traced.bind_value, resolve, hmembers, resolveUnion_value (by decide)]
  simp only [List.map_cons, List.map_nil, hscalar, hstring, hnull]
  rfl

/-- the union that a reference to a union is spliced into, less the repeat -/
theorem resolve_wellFormed_scalarList :
    (Descriptor.union [.primitive .string, .primitive .integer, .primitive .null]).Occurs
        (resolve scalars [] scalarList).value ∧
      (Descriptor.union [.primitive .string, .primitive .integer, .primitive .null]).WellFormed := by
  have hoccurs : (Descriptor.union [.primitive .string, .primitive .integer, .primitive .null]).Occurs
      (resolve scalars [] scalarList).value := by
    rw [resolve_scalarList]
    exact .item .self
  exact ⟨hoccurs, resolve_wellFormed scalars [] scalarList _ hoccurs⟩

end ToolSchema
