/-
Descriptors as sets of values.

`Descriptor.Accepts d v` is read off the constructors. `valid_toJson_iff` says that the schema node written for a
descriptor means just that: validity against the node is acceptance by the descriptor. `Descriptor.induct` is the
induction principle that goes along, with one hypothesis for all types inside.
-/
import ToolSchema.Descriptor
import ToolSchema.Proofs.Schema.Validity

namespace ToolSchema

namespace Descriptor

/-! ## Induction -/

/-- a property of descriptors holds of all if it goes from the types inside to the type around them -/
theorem induct {P : Descriptor → Prop} (primitive : ∀ kind, P (.primitive kind))
    (array : ∀ item, P item → P (.array item))
    (object : ∀ shape : Shape Descriptor, (∀ p ∈ shape.properties, P p.2) →
      (∀ type, shape.additional = .values type → P type) → P (.object shape))
    (enum : ∀ values, P (.enum values)) (union : ∀ variants, (∀ d ∈ variants, P d) → P (.union variants))
    (unknown : P .unknown) : ∀ d, P d
  | .primitive kind => primitive kind
  | .array item => array item (induct primitive array object enum union unknown item)
  | .object ⟨properties, required, additional⟩ =>
    object ⟨properties, required, additional⟩
      (fun p _hp => induct primitive array object enum union unknown p.2)
      (fun type _htype => induct primitive array object enum union unknown type)
  | .enum values => enum values
  | .union variants => union variants fun d _hd => induct primitive array object enum union unknown d
  | .unknown => unknown
termination_by d => sizeOf d
decreasing_by
  · simp only [Descriptor.array.sizeOf_spec]
    omega
  · obtain ⟨name, d⟩ := p
    have := List.sizeOf_lt_of_mem _hp
    simp only [Prod.mk.sizeOf_spec] at this
    simp only [Descriptor.object.sizeOf_spec, Shape.mk.sizeOf_spec]
    omega
  · simp only at _htype
    subst _htype
    simp only [Descriptor.object.sizeOf_spec, Shape.mk.sizeOf_spec, Additional.values.sizeOf_spec]
    omega
  · have := List.sizeOf_lt_of_mem _hd
    simp only [Descriptor.union.sizeOf_spec]
    omega

/-! ## Acceptance -/

/-- the value is of the described type; names that must be present are listed beside properties only -/
inductive Accepts : Descriptor → Json → Prop
  | primitive {kind : Kind} {v : Json} (h : kind.name ∈ v.typeNames) : Accepts (.primitive kind) v
  | array {item : Descriptor} {items : List Json} (hitems : ∀ v ∈ items, Accepts item v) :
    Accepts (.array item) (.array items)
  | object {shape : Shape Descriptor} {members : List (String × Json)}
    (hproperties : ∀ p ∈ shape.properties, ∀ m ∈ members, m.1 = p.1 → Accepts p.2 m.2)
    (hrequired : shape.properties ≠ [] → ∀ name ∈ shape.required, Entries.has name members = true)
    (hvalues : ∀ type, shape.additional = .values type →
      ∀ m ∈ members, Entries.has m.1 shape.properties = false → Accepts type m.2)
    (hforbidden : shape.additional = .forbidden → ∀ m ∈ members, Entries.has m.1 shape.properties = true) :
    Accepts (.object shape) (.object members)
  | enum {values : List Json} {u v : Json} (hmem : u ∈ values) (hv : u.same v = true) : Accepts (.enum values) v
  | union {variants : List Descriptor} {d : Descriptor} {v : Json} (hmem : d ∈ variants) (hv : Accepts d v) :
    Accepts (.union variants) v
  | unknown (v : Json) : Accepts .unknown v

/-! ## The written node -/

theorem toJson_eq (d : Descriptor) : d.toJson = .object d.schemaMembers := by
  cases d <;> rfl

theorem variantsToJson_eq_map (variants : List Descriptor) : variantsToJson variants = variants.map toJson := by
  induction variants with
  | nil => rfl
  | cons d rest ih => simp only [variantsToJson, ih, List.map_cons]

theorem propertiesToJson_eq_map (properties : List (String × Descriptor)) :
    propertiesToJson properties = properties.map fun p => (p.1, p.2.toJson) := by
  induction properties with
  | nil => rfl
  | cons p rest ih => simp only [propertiesToJson, ih, List.map_cons]

end Descriptor

theorem Json.array_mem_typeNames {v : Json} : "array" ∈ v.typeNames ↔ ∃ items, v = .array items := by
  cases v with
  | number n => cases hn : n.isWhole <;> simp [typeNames, hn]
  | _ => simp [typeNames]

theorem Json.object_mem_typeNames {v : Json} : "object" ∈ v.typeNames ↔ ∃ members, v = .object members := by
  cases v with
  | number n => cases hn : n.isWhole <;> simp [typeNames, hn]
  | _ => simp [typeNames]

namespace Schema

/-- at this depth the schema means what the descriptor says -/
def MeansAt (root : Json) (d : Descriptor) (depth : Nat) : Prop :=
  ∀ v, validAt root depth d.toJson v = true ↔ d.Accepts v

variable {root : Json} {depth : Nat}

theorem meansAt_primitive (kind : Kind) : MeansAt root (.primitive kind) (depth + 1) := by
  intro v
  simp only [Descriptor.toJson, validAt_object, List.mem_singleton, forall_eq, keywordAllows, List.contains_iff_mem]
  constructor
  · exact .primitive
  · intro h
    cases h with
    | primitive h => exact h

theorem meansAt_array {item : Descriptor} (hitem : MeansAt root item depth) :
    MeansAt root (.array item) (depth + 1) := by
  intro v
  simp only [Descriptor.toJson, validAt_object, List.mem_cons, List.not_mem_nil, or_false, forall_eq_or_imp, forall_eq,
    keywordAllows, List.contains_iff_mem, List.all_eq_true, Json.array_mem_typeNames]
  constructor
  · rintro ⟨⟨items, rfl⟩, hitems⟩
    exact .array fun w hw => (hitem w).1 (hitems w hw)
  · intro h
    cases h with
    | array hitems => exact ⟨⟨_, rfl⟩, fun w hw => (hitem w).2 (hitems w hw)⟩

theorem meansAt_enum (values : List Json) : MeansAt root (.enum values) (depth + 1) := by
  intro v
  simp only [Descriptor.toJson, validAt_object, List.mem_singleton, forall_eq, keywordAllows, List.any_eq_true]
  constructor
  · rintro ⟨u, hmem, hv⟩
    exact .enum hmem hv
  · intro h
    cases h with
    | enum hmem hv => exact ⟨_, hmem, hv⟩

theorem meansAt_union {variants : List Descriptor} (hvariants : ∀ d ∈ variants, MeansAt root d depth) :
    MeansAt root (.union variants) (depth + 1) := by
  intro v
  simp only [Descriptor.toJson, Descriptor.variantsToJson_eq_map, validAt_object, List.mem_singleton, forall_eq,
    keywordAllows, List.any_eq_true, List.mem_map]
  constructor
  · rintro ⟨-, ⟨d, hmem, rfl⟩, hv⟩
    exact .union hmem ((hvariants d hmem v).1 hv)
  · intro h
    cases h with
    | union hmem hv => exact ⟨_, ⟨_, hmem, rfl⟩, (hvariants _ hmem v).2 hv⟩

theorem meansAt_unknown : MeansAt root .unknown (depth + 1) := by
  intro v
  simp only [Descriptor.toJson, validAt_object, List.not_mem_nil, false_implies, implies_true, true_iff]
  exact .unknown v

/-! ### Objects -/

/-- the members of an object's node -/
def objectNode (shape : Shape Descriptor) : List (String × Json) :=
  ("type", .string "object") ::
    Descriptor.declared (Descriptor.propertiesToJson shape.properties) shape.required ++
      Descriptor.additionalToJson shape.additional

theorem has_propertiesToJson (name : String) (properties : List (String × Descriptor)) :
    Entries.has name (Descriptor.propertiesToJson properties) = Entries.has name properties := by
  induction properties with
  | nil => rfl
  | cons p rest ih =>
    obtain ⟨k, d⟩ := p
    simp only [Entries.has] at ih
    by_cases h : name = k
    · simp [Descriptor.propertiesToJson, Entries.has, h]
    · simp only [Descriptor.propertiesToJson, Entries.has, Entries.lookup_cons_if, h, if_false, ih]

theorem declares_objectNode (shape : Shape Descriptor) (name : String) :
    declares (objectNode shape) name = Entries.has name shape.properties := by
  obtain ⟨properties, required, additional⟩ := shape
  cases properties with
  | nil => cases additional <;> rfl
  | cons p rest =>
    rw [← has_propertiesToJson]
    rfl

theorem forall_mem_objectNode {shape : Shape Descriptor} {P : String × Json → Prop} :
    (∀ k ∈ objectNode shape, P k) ↔
      P ("type", .string "object") ∧
      (∀ k ∈ Descriptor.declared (Descriptor.propertiesToJson shape.properties) shape.required, P k) ∧
      ∀ k ∈ Descriptor.additionalToJson shape.additional, P k := by
  rw [objectNode, List.cons_append, List.forall_mem_cons, List.forall_mem_append]

section

variable {node members : List (String × Json)} {valid : Json → Json → Bool}

/-- the keywords `properties` and `required`, which stand only beside a property -/
theorem declared_allow (properties : List (String × Descriptor)) (required : List String) :
    (∀ k ∈ Descriptor.declared (Descriptor.propertiesToJson properties) required,
        keywordAllows root node valid (.object members) k.1 k.2 = true) ↔
      (∀ p ∈ properties, ∀ m ∈ members, m.1 = p.1 → valid p.2.toJson m.2 = true) ∧
      (properties ≠ [] → ∀ name ∈ required, Entries.has name members = true) := by
  by_cases hne : properties = []
  · subst hne
    simp [Descriptor.propertiesToJson, Descriptor.declared]
  · have hdeclared : Descriptor.declared (Descriptor.propertiesToJson properties) required =
        [("properties", .object (properties.map fun p => (p.1, p.2.toJson))), ("required", .ofStrings required)] := by
      rw [← Descriptor.propertiesToJson_eq_map]
      cases properties with
      | nil => exact absurd rfl hne
      | cons p rest => rfl
    have hnames : (required.map Json.string).filterMap Json.string? = required := by
      simp [List.filterMap_map, Function.comp_def, Json.string?]
    rw [hdeclared]
    simp only [List.forall_mem_cons, List.not_mem_nil, false_implies, implies_true, and_true, keywordAllows,
      Json.ofStrings, Json.object?, Option.getD_some, Option.all_some, hnames, List.all_eq_true, List.forall_mem_map,
      Bool.or_eq_true, bne_iff_ne, ne_eq, hne, not_false_eq_true, true_implies, Classical.or_iff_not_imp_left,
      Classical.not_not]

/-- the keyword `additionalProperties`, if there is one -/
theorem additional_allow (additional : Additional Descriptor) :
    (∀ k ∈ Descriptor.additionalToJson additional,
        keywordAllows root node valid (.object members) k.1 k.2 = true) ↔
      (∀ type, additional = .values type →
        ∀ m ∈ members, declares node m.1 = false → valid type.toJson m.2 = true) ∧
      (additional = .forbidden → ∀ m ∈ members, declares node m.1 = false → valid (.bool false) m.2 = true) := by
  cases additional <;>
    simp [Descriptor.additionalToJson, keywordAllows, Json.object?, Classical.or_iff_not_imp_left]

end

theorem validAt_never (v : Json) : validAt root depth (.bool false) v = false := by
  cases depth <;> rfl

/-- the keywords of an object's node, each with what it says -/
theorem validAt_objectNode {shape : Shape Descriptor} {v : Json} :
    validAt root (depth + 1) (.object (objectNode shape)) v = true ↔
      ∃ members, v = .object members ∧
        (∀ p ∈ shape.properties, ∀ m ∈ members, m.1 = p.1 → validAt root depth p.2.toJson m.2 = true) ∧
        (shape.properties ≠ [] → ∀ name ∈ shape.required, Entries.has name members = true) ∧
        (∀ type, shape.additional = .values type →
          ∀ m ∈ members, Entries.has m.1 shape.properties = false → validAt root depth type.toJson m.2 = true) ∧
        (shape.additional = .forbidden → ∀ m ∈ members, Entries.has m.1 shape.properties = true) := by
  have htype : keywordAllows root (objectNode shape) (validAt root depth) v "type" (.string "object") = true ↔
      ∃ members, v = .object members := by
    rw [← Json.object_mem_typeNames]
    simp only [keywordAllows, List.contains_iff_mem]
  rw [validAt_object, forall_mem_objectNode, htype]
  constructor
  · rintro ⟨⟨members, rfl⟩, hdeclared, hadditional⟩
    obtain ⟨hproperties, hrequired⟩ := (declared_allow _ _).1 hdeclared
    obtain ⟨hvalues, hforbidden⟩ := (additional_allow _).1 hadditional
    simp only [declares_objectNode, validAt_never] at hvalues hforbidden
    exact ⟨members, rfl, hproperties, hrequired, hvalues, fun h m hm => by
      cases hhas : Entries.has m.1 shape.properties with
      | true => rfl
      | false => exact absurd (hforbidden h m hm hhas) Bool.false_ne_true⟩
  · rintro ⟨members, rfl, hproperties, hrequired, hvalues, hforbidden⟩
    refine ⟨⟨members, rfl⟩, (declared_allow _ _).2 ⟨hproperties, hrequired⟩, (additional_allow _).2 ⟨?_, ?_⟩⟩
    · simpa only [declares_objectNode] using hvalues
    · intro h m hm hhas
      rw [declares_objectNode, hforbidden h m hm] at hhas
      exact absurd hhas Bool.false_ne_true.symm

theorem meansAt_object {shape : Shape Descriptor} (hproperties : ∀ p ∈ shape.properties, MeansAt root p.2 depth)
    (hvalues : ∀ type, shape.additional = .values type → MeansAt root type depth) :
    MeansAt root (.object shape) (depth + 1) := by
  intro v
  have hnode : (Descriptor.object shape).toJson = .object (objectNode shape) := rfl
  rw [hnode, validAt_objectNode]
  constructor
  · rintro ⟨members, rfl, hp, hr, ht, hf⟩
    exact .object (fun p hmem m hm hk => (hproperties p hmem m.2).1 (hp p hmem m hm hk)) hr
      (fun type htype m hm hk => (hvalues type htype m.2).1 (ht type htype m hm hk)) hf
  · intro h
    cases h with
    | object hp hr ht hf =>
      exact ⟨_, rfl, fun p hmem m hm hk => (hproperties p hmem m.2).2 (hp p hmem m hm hk), hr,
        fun type htype m hm hk => (hvalues type htype m.2).2 (ht type htype m hm hk), hf⟩

/-! ### All descriptors -/

/-- from some depth on, the node of a descriptor means what the descriptor says, for all values alike -/
theorem eventually_meansAt (root : Json) (d : Descriptor) : Eventually (MeansAt root d) := by
  induction d using Descriptor.induct with
  | primitive kind => exact .of_succ fun _ => meansAt_primitive kind
  | array item ih => exact ih.step fun _ => meansAt_array
  | object shape hproperties hvalues =>
    have hadditional : Eventually fun depth => ∀ type, shape.additional = .values type → MeansAt root type depth := by
      cases hcase : shape.additional with
      | values type =>
        obtain ⟨bound, h⟩ := hvalues type hcase
        exact ⟨bound, fun depth hdepth other hother => by cases hother; exact h depth hdepth⟩
      | _ => exact ⟨0, fun depth _ other hother => by cases hother⟩
    exact ((Eventually.forall_mem hproperties).and hadditional).step fun _ h => meansAt_object h.1 h.2
  | enum values => exact .of_succ fun _ => meansAt_enum values
  | union variants ih => exact (Eventually.forall_mem ih).step fun _ => meansAt_union
  | unknown => exact .of_succ fun _ => meansAt_unknown

/-- **The node means the descriptor.** A value is valid against the schema node of a descriptor exactly if the descriptor
accepts it. -/
theorem valid_toJson_iff (d : Descriptor) (v : Json) : Valid d.toJson v ↔ d.Accepts v := by
  obtain ⟨bound, hmeans⟩ := eventually_meansAt d.toJson d
  constructor
  · rintro ⟨later, h⟩
    exact (hmeans (max bound later) (by omega) v).1 (h _ (by omega))
  · intro h
    exact ⟨bound, fun depth hdepth => (hmeans depth hdepth v).2 h⟩

end Schema

end ToolSchema
