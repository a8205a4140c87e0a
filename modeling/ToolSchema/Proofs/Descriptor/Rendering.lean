/-
The schema nodes of descriptors, which tell the descriptors apart.

The node of an object leaves out what is empty: `properties` and `required` if there are no properties, and
`additionalProperties` if nothing is said about other keys. Nothing is lost by that in normal form, where an object
without properties requires no names either (`required_eq_nil`).

- `Normal.toJson_injective`: normal descriptors that are written alike, with the keys in order, are equal.
- `Normal.same_toJson`: as JSON values, where the order of keys does not count, their nodes are equal if and only if
  the program takes the descriptors for equal.
- `resolve_toJson_injective`: both for answers, and so no `anyOf` in the node of an answer lists a node twice.
-/
import ToolSchema.Proofs.Descriptor.Nodes

namespace ToolSchema

/-! ## Names and JSON values -/

theorem Kind.name_injective {a b : Kind} (h : a.name = b.name) : a = b := by
  revert h
  cases a <;> cases b <;> decide

namespace Json

theorem ofStrings_injective {names names' : List String} (h : ofStrings names = ofStrings names') : names = names' := by
  rw [ofStrings, ofStrings, array.injEq] at h
  exact List.map_injective_iff.2 (fun _ _ => string.inj) h

theorem same_object (as bs : List (String × Json)) :
    (object as).same (object bs) = (as.length == bs.length && sameMembers as bs) := by
  rw [same]

theorem sameMembers_append (as bs members : List (String × Json)) :
    sameMembers (as ++ bs) members = (sameMembers as members && sameMembers bs members) := by
  induction as with
  | nil => rfl
  | cons a as ih => rw [List.cons_append, sameMembers, sameMembers, ih, Bool.and_assoc]

theorem same_string (a b : String) : (string a).same (string b) = (a == b) := by
  rw [same]

theorem same_bool (a b : Bool) : (bool a).same (bool b) = (a == b) := by
  rw [same]

theorem same_ofStrings (names names' : List String) :
    (ofStrings names).same (ofStrings names') = (names == names') := by
  rw [ofStrings, ofStrings, same]
  induction names generalizing names' with
  | nil => cases names' <;> rfl
  | cons name rest ih =>
    cases names' with
    | nil => rfl
    | cons name' rest' => rw [List.map_cons, List.map_cons, sameItems, ih, same_string, List.cons_beq_cons]

end Json

namespace Descriptor

/-! ## Parts -/

theorem toJson_object (shape : Shape Descriptor) : (object shape).toJson = .object (Schema.objectNode shape) := rfl

/-- a node is never the `false` that forbids additional properties -/
theorem bool_ne_toJson (b : Bool) (d : Descriptor) : Json.bool b ≠ d.toJson := by
  rw [toJson_eq]
  exact Json.noConfusion

theorem bool_same_toJson (b : Bool) (d : Descriptor) : (Json.bool b).same d.toJson = false := by
  rw [toJson_eq, Json.same]
  all_goals intros; contradiction

theorem toJson_same_bool (d : Descriptor) (b : Bool) : d.toJson.same (.bool b) = false := by
  rw [toJson_eq, Json.same]
  all_goals intros; contradiction

theorem length_propertiesToJson (properties : List (String × Descriptor)) :
    (propertiesToJson properties).length = properties.length := by
  rw [propertiesToJson_eq_map, List.length_map]

theorem lookup_propertiesToJson (name : String) (properties : List (String × Descriptor)) :
    (propertiesToJson properties).lookup name = (properties.lookup name).map toJson := by
  induction properties with
  | nil => rfl
  | cons p rest ih =>
    rw [propertiesToJson, Entries.lookup_cons_if, Entries.lookup_cons_if, ih]
    split <;> rfl

/-- without properties there is nothing to require -/
theorem required_eq_nil {s : Shape Descriptor} (hs : s.Declared) (h : s.properties = []) : s.required = [] := by
  refine List.eq_nil_iff_forall_not_mem.2 fun name hname => ?_
  have hhas := hs.required_declared name hname
  rw [h] at hhas
  cases hhas

/-! ## Nodes with the keys in order -/

theorem propertiesToJson_injective {ps qs : List (String × Descriptor)}
    (hinj : ∀ p ∈ ps, ∀ q ∈ qs, p.2.toJson = q.2.toJson → p.2 = q.2) (h : propertiesToJson ps = propertiesToJson qs) :
    ps = qs := by
  induction ps generalizing qs with
  | nil =>
    cases qs with
    | nil => rfl
    | cons q qs => cases h
  | cons p ps ih =>
    cases qs with
    | nil => cases h
    | cons q qs =>
      rw [propertiesToJson, propertiesToJson, List.cons.injEq, Prod.mk.injEq] at h
      have htype : p.2 = q.2 := hinj p List.mem_cons_self q List.mem_cons_self h.1.2
      have hrest : ps = qs :=
        ih (fun p hp q hq => hinj p (List.mem_cons_of_mem _ hp) q (List.mem_cons_of_mem _ hq)) h.2
      rw [Prod.ext h.1.1 htype, hrest]

theorem variantsToJson_injective {as bs : List Descriptor} (hinj : ∀ a ∈ as, ∀ b ∈ bs, a.toJson = b.toJson → a = b)
    (h : variantsToJson as = variantsToJson bs) : as = bs := by
  induction as generalizing bs with
  | nil =>
    cases bs with
    | nil => rfl
    | cons b bs => cases h
  | cons a as ih =>
    cases bs with
    | nil => cases h
    | cons b bs =>
      rw [variantsToJson, variantsToJson, List.cons.injEq] at h
      have hrest : as = bs :=
        ih (fun a ha b hb => hinj a (List.mem_cons_of_mem _ ha) b (List.mem_cons_of_mem _ hb)) h.2
      rw [hinj a List.mem_cons_self b List.mem_cons_self h.1, hrest]

/-- what is written about other keys is one member or none -/
theorem additionalToJson_injective {x y : Additional Descriptor}
    (hinj : ∀ a b, x = .values a → y = .values b → a.toJson = b.toJson → a = b)
    (h : additionalToJson x = additionalToJson y) : x = y := by
  cases x with
  | unconstrained => cases y <;> simp [additionalToJson] at h ⊢
  | forbidden => cases y <;> simp [additionalToJson, bool_ne_toJson] at h ⊢
  | values a =>
    cases y with
    | unconstrained => simp [additionalToJson] at h
    | forbidden => simp [additionalToJson, (bool_ne_toJson _ _).symm] at h
    | values b =>
      have hab : a.toJson = b.toJson := by simpa [additionalToJson] using h
      rw [hinj a b rfl rfl hab]

/-- what is written about other keys does not begin like the declaration of properties -/
theorem additionalToJson_ne (x : Additional Descriptor) (value : Json) (rest : List (String × Json)) :
    additionalToJson x ≠ ("properties", value) :: rest := by
  cases x <;> simp [additionalToJson]

theorem objectNode_injective {s t : Shape Descriptor} (hs : s.Declared) (ht : t.Declared)
    (hproperties : ∀ p ∈ s.properties, ∀ q ∈ t.properties, p.2.toJson = q.2.toJson → p.2 = q.2)
    (hvalues : ∀ a b, s.additional = .values a → t.additional = .values b → a.toJson = b.toJson → a = b)
    (h : Schema.objectNode s = Schema.objectNode t) : s = t := by
  have hrequired := required_eq_nil hs
  have hrequired' := required_eq_nil ht
  obtain ⟨ps, required, additional⟩ := s
  obtain ⟨qs, required', additional'⟩ := t
  have htail : declared (propertiesToJson ps) required ++ additionalToJson additional =
      declared (propertiesToJson qs) required' ++ additionalToJson additional' := List.tail_eq_of_cons_eq h
  cases ps with
  | nil =>
    cases qs with
    | nil =>
      cases hrequired rfl
      cases hrequired' rfl
      cases additionalToJson_injective hvalues htail
      rfl
    | cons q qs => exact absurd htail (additionalToJson_ne additional _ _)
  | cons p ps =>
    cases qs with
    | nil => exact absurd htail.symm (additionalToJson_ne additional' _ _)
    | cons q qs =>
      simp only [propertiesToJson, declared, List.cons_append, List.nil_append, List.cons.injEq, Prod.mk.injEq,
        Json.object.injEq, true_and] at htail
      obtain ⟨⟨hhead, hrest⟩, hnames, hadditional⟩ := htail
      have hpq : p :: ps = q :: qs :=
        propertiesToJson_injective hproperties (by simp [propertiesToJson, hhead, hrest])
      cases additionalToJson_injective hvalues hadditional
      rw [hpq, Json.ofStrings_injective hnames]

theorem Normal.toJson_injective {d e : Descriptor} (hd : d.Normal) (he : e.Normal) (h : d.toJson = e.toJson) :
    d = e := by
  induction d using Descriptor.induct generalizing e with
  | primitive kind =>
    cases e with
    | primitive kind' =>
      have hname : kind.name = kind'.name := by simpa [toJson] using h
      rw [Kind.name_injective hname]
    | object shape => cases kind <;> simp [toJson, Kind.name] at h
    | _ => simp [toJson] at h
  | array item ih =>
    cases e with
    | array item' =>
      cases hd with
      | array hitem =>
        cases he with
        | array hitem' => rw [ih hitem hitem' (by simpa [toJson] using h)]
    | _ => simp [toJson] at h
  | object s ihproperties ihvalues =>
    cases e with
    | object t =>
      cases hd with
      | object hs sproperties svalues =>
        cases he with
        | object ht tproperties tvalues =>
          rw [toJson_object, toJson_object, Json.object.injEq] at h
          congr
          refine objectNode_injective hs ht ?_ ?_ h
          · intro p hp q hq
            exact ihproperties p hp (sproperties p hp) (tproperties q hq)
          · intro a b ha hb
            exact ihvalues a ha (svalues a ha) (tvalues b hb)
    | primitive kind => cases kind <;> simp [toJson, Kind.name] at h
    | _ => simp [toJson] at h
  | enum values =>
    cases e with
    | enum values' => simpa [toJson] using h
    | _ => simp [toJson] at h
  | union variants ih =>
    cases e with
    | union variants' =>
      cases hd with
      | union hseveral hplain hdistinct hvariants =>
        cases he with
        | union hseveral' hplain' hdistinct' hvariants' =>
          have hnodes : variantsToJson variants = variantsToJson variants' := by simpa [toJson] using h
          rw [variantsToJson_injective (fun a ha b hb => ih a ha (hvariants a ha) (hvariants' b hb)) hnodes]
    | _ => simp [toJson] at h
  | unknown =>
    cases e with
    | unknown => rfl
    | _ => simp [toJson] at h

/-! ## Nodes as JSON values -/

theorem sameMembers_propertiesToJson {ps qs : List (String × Descriptor)}
    (h : ∀ p ∈ ps, ∀ q ∈ qs, p.2.toJson.same q.2.toJson = p.2.same q.2) :
    Json.sameMembers (propertiesToJson ps) (propertiesToJson qs) = sameProperties ps qs := by
  induction ps with
  | nil => rfl
  | cons p rest ih =>
    rw [List.forall_mem_cons] at h
    rw [propertiesToJson, Json.sameMembers, sameProperties, lookup_propertiesToJson, ih h.2]
    cases hlookup : qs.lookup p.1 with
    | none => rfl
    | some d =>
      have hsame : p.2.toJson.same d.toJson = p.2.same d := h.1 (p.1, d) (Entries.mem_of_lookup hlookup)
      exact congrArg (· && _) hsame

theorem sameItems_variantsToJson {as bs : List Descriptor}
    (h : ∀ a ∈ as, ∀ b ∈ bs, a.toJson.same b.toJson = a.same b) :
    Json.sameItems (variantsToJson as) (variantsToJson bs) = sameVariants as bs := by
  induction as generalizing bs with
  | nil => cases bs <;> rfl
  | cons a as ih =>
    cases bs with
    | nil => rfl
    | cons b bs =>
      have hhead : a.toJson.same b.toJson = a.same b := h a List.mem_cons_self b List.mem_cons_self
      rw [variantsToJson, variantsToJson, Json.sameItems, sameVariants, hhead, ih]
      intro a' ha' b' hb'
      exact h a' (List.mem_cons_of_mem a ha') b' (List.mem_cons_of_mem b hb')

/-! ### Objects -/

theorem declared_of_ne_nil {properties : List (String × Descriptor)} (h : properties ≠ []) (required : List String) :
    declared (propertiesToJson properties) required =
      [("properties", .object (propertiesToJson properties)), ("required", .ofStrings required)] := by
  cases properties with
  | nil => exact absurd rfl h
  | cons p rest => rfl

theorem lookup_type_objectNode (shape : Shape Descriptor) :
    (Schema.objectNode shape).lookup "type" = some (.string "object") := rfl

theorem lookup_properties_objectNode (shape : Shape Descriptor) :
    (Schema.objectNode shape).lookup "properties" =
      if shape.properties = [] then none else some (.object (propertiesToJson shape.properties)) := by
  obtain ⟨properties, required, additional⟩ := shape
  cases properties <;> cases additional <;>
    simp [Schema.objectNode, propertiesToJson, declared, additionalToJson, Entries.lookup_cons_if]

theorem lookup_required_objectNode (shape : Shape Descriptor) :
    (Schema.objectNode shape).lookup "required" =
      if shape.properties = [] then none else some (.ofStrings shape.required) := by
  obtain ⟨properties, required, additional⟩ := shape
  cases properties <;> cases additional <;>
    simp [Schema.objectNode, propertiesToJson, declared, additionalToJson, Entries.lookup_cons_if]

theorem lookup_additional_objectNode (shape : Shape Descriptor) :
    (Schema.objectNode shape).lookup "additionalProperties" =
      (additionalToJson shape.additional).lookup "additionalProperties" := by
  obtain ⟨properties, required, additional⟩ := shape
  cases properties <;> cases additional <;>
    simp [Schema.objectNode, propertiesToJson, declared, additionalToJson, Entries.lookup_cons_if]

theorem lookup_objectNode_eq_none {key : String} (shape : Shape Descriptor)
    (h : key ∉ ["type", "properties", "required", "additionalProperties"]) :
    (Schema.objectNode shape).lookup key = none := by
  obtain ⟨properties, required, additional⟩ := shape
  simp only [List.mem_cons, List.not_mem_nil, or_false, not_or] at h
  cases properties <;> cases additional <;>
    simp [Schema.objectNode, propertiesToJson, declared, additionalToJson, Entries.lookup_cons_if, h]

/-- how many members say something about properties and about other keys -/
theorem length_objectNode (shape : Shape Descriptor) :
    (Schema.objectNode shape).length =
      1 + (if shape.properties = [] then 0 else 2) + (additionalToJson shape.additional).length := by
  obtain ⟨properties, required, additional⟩ := shape
  cases properties <;> simp [Schema.objectNode, propertiesToJson, declared] <;> omega

/-- of what is written about other keys, the number of members tells nothing from something -/
theorem sameMembers_additionalToJson {x : Additional Descriptor} {shape : Shape Descriptor}
    (hvalues : ∀ a b, x = .values a → shape.additional = .values b → a.toJson.same b.toJson = a.same b) :
    ((additionalToJson x).length == (additionalToJson shape.additional).length &&
      Json.sameMembers (additionalToJson x) (Schema.objectNode shape)) = sameAdditional x shape.additional := by
  cases x <;> cases hadditional : shape.additional <;>
    simp [additionalToJson, Json.sameMembers, sameAdditional, lookup_additional_objectNode, hadditional, Json.same_bool,
      toJson_same_bool, bool_same_toJson, hvalues]

theorem length_additionalToJson_le (x : Additional Descriptor) : (additionalToJson x).length ≤ 1 := by
  cases x <;> simp [additionalToJson]

theorem same_toJson_object {s t : Shape Descriptor} (hs : s.Declared) (ht : t.Declared)
    (hproperties : ∀ p ∈ s.properties, ∀ q ∈ t.properties, p.2.toJson.same q.2.toJson = p.2.same q.2)
    (hvalues : ∀ a b, s.additional = .values a → t.additional = .values b → a.toJson.same b.toJson = a.same b) :
    (object s).toJson.same (object t).toJson = (object s).same (.object t) := by
  have hmembers := sameMembers_propertiesToJson hproperties
  have hadditional := sameMembers_additionalToJson hvalues
  have hlength := length_additionalToJson_le s.additional
  have hsrequired := required_eq_nil hs
  have htrequired := required_eq_nil ht
  obtain ⟨properties, required, additional⟩ := s
  rw [toJson_object, toJson_object, Json.same_object, length_objectNode, length_objectNode, same, ← hadditional,
    Schema.objectNode, List.cons_append, Json.sameMembers, Json.sameMembers_append, lookup_type_objectNode]
  simp only at hlength hsrequired hmembers ⊢
  by_cases hp : properties = []
  · cases hp
    by_cases hq : t.properties = []
    · simp [hq, hsrequired, htrequired, Json.same_string, propertiesToJson, declared, Json.sameMembers, sameProperties,
        beq_eq_decide]
    · -- one member or two, against three or four
      have hne : 1 + 0 + (additionalToJson additional).length ≠ 1 + 2 + (additionalToJson t.additional).length := by
        omega
      have hqs : ([] : List (String × Descriptor)).length ≠ t.properties.length := by simpa [eq_comm] using hq
      rw [if_pos rfl, if_neg hq, beq_false_of_ne hne, beq_false_of_ne hqs]
      rfl
  · by_cases hq : t.properties = []
    · -- the second node lacks the keyword that declares the properties of the first
      simp [hq, hp, declared_of_ne_nil hp, Json.sameMembers, lookup_properties_objectNode]
    · simp [hq, hp, declared_of_ne_nil hp, Json.sameMembers, lookup_properties_objectNode, lookup_required_objectNode,
        Json.same_string, Json.same_object, Json.same_ofStrings, length_propertiesToJson, hmembers, beq_eq_decide,
        Bool.and_assoc, Bool.and_left_comm]

/-! ### The other types -/

theorem same_toJson_primitive (kind : Kind) (e : Descriptor) :
    (primitive kind).toJson.same e.toJson = (primitive kind).same e := by
  cases e with
  | primitive kind' =>
    have hname : (kind.name == kind'.name) = (kind == kind') := by cases kind <;> cases kind' <;> decide
    simp [toJson, Json.same_object, Json.sameMembers, Json.same_string, same, hname]
  | object shape =>
    have hname : kind.name ≠ "object" := by cases kind <;> decide
    rw [toJson_object]
    simp [toJson, Json.same_object, lookup_type_objectNode, Json.sameMembers, Json.same_string, same, hname]
  | _ => simp [toJson, Json.same_object, Json.sameMembers, same, Entries.lookup_cons_if]

theorem same_toJson_array {item : Descriptor} (e : Descriptor)
    (hitem : ∀ item', e = .array item' → item.toJson.same item'.toJson = item.same item') :
    (array item).toJson.same e.toJson = (array item).same e := by
  cases e with
  | array item' =>
    simp [toJson, Json.same_object, Json.sameMembers, Json.same_string, same, Entries.lookup_cons_if, hitem]
  | primitive kind =>
    cases kind <;> simp [toJson, Json.same_object, Json.sameMembers, Json.same_string, Kind.name, same]
  | object shape =>
    rw [toJson_object]
    simp [toJson, Json.same_object, lookup_type_objectNode, Json.sameMembers, Json.same_string, same]
  | _ => simp [toJson, Json.same_object, Json.sameMembers, same]

theorem same_toJson_enum (values : List Json) (e : Descriptor) :
    (enum values).toJson.same e.toJson = (enum values).same e := by
  cases e with
  | enum values' => simp [toJson, Json.same_object, Json.sameMembers, Json.same, same]
  | object shape =>
    rw [toJson_object]
    simp [toJson, Json.same_object, lookup_objectNode_eq_none, Json.sameMembers, same]
  | _ => simp [toJson, Json.same_object, Json.sameMembers, same, Entries.lookup_cons_if]

theorem same_toJson_union {variants : List Descriptor} (e : Descriptor)
    (hvariants : ∀ variants', e = .union variants' →
      ∀ a ∈ variants, ∀ b ∈ variants', a.toJson.same b.toJson = a.same b) :
    (union variants).toJson.same e.toJson = (union variants).same e := by
  cases e with
  | union variants' =>
    have hitems := sameItems_variantsToJson (hvariants variants' rfl)
    simp [toJson, Json.same_object, Json.sameMembers, Json.same, same, hitems]
  | object shape =>
    rw [toJson_object]
    simp [toJson, Json.same_object, lookup_objectNode_eq_none, Json.sameMembers, same]
  | _ => simp [toJson, Json.same_object, Json.sameMembers, same, Entries.lookup_cons_if]

theorem same_toJson_unknown (e : Descriptor) : unknown.toJson.same e.toJson = unknown.same e := by
  cases e <;> simp [toJson, Json.same_object, Json.sameMembers, same]

/-- an object's node has no counterpart to its first member in the node of another type -/
theorem same_toJson_object_of_ne {shape : Shape Descriptor} {e : Descriptor} (he : ∀ t, e ≠ .object t) :
    (object shape).toJson.same e.toJson = (object shape).same e := by
  rw [toJson_object, Schema.objectNode]
  cases e with
  | object t => exact absurd rfl (he t)
  | primitive kind =>
    cases kind <;> simp [toJson, Json.same_object, Json.sameMembers, Json.same_string, Kind.name, same]
  | _ => simp [toJson, Json.same_object, Json.sameMembers, Json.same_string, Entries.lookup_cons_if, same]

theorem Normal.same_toJson {d e : Descriptor} (hd : d.Normal) (he : e.Normal) :
    d.toJson.same e.toJson = d.same e := by
  induction d using Descriptor.induct generalizing e with
  | primitive kind => exact same_toJson_primitive kind e
  | array item ih =>
    cases hd with
    | array hitem =>
      refine same_toJson_array e ?_
      rintro item' rfl
      cases he with
      | array hitem' => exact ih hitem hitem'
  | object s ihproperties ihvalues =>
    cases e with
    | object t =>
      cases hd with
      | object hs sproperties svalues =>
        cases he with
        | object ht tproperties tvalues =>
          refine same_toJson_object hs ht ?_ ?_
          · intro p hp q hq
            exact ihproperties p hp (sproperties p hp) (tproperties q hq)
          · intro a b ha hb
            exact ihvalues a ha (svalues a ha) (tvalues b hb)
    | _ => exact same_toJson_object_of_ne fun t ht => by cases ht
  | enum values => exact same_toJson_enum values e
  | union variants ih =>
    cases hd with
    | union hseveral hplain hdistinct hvariants =>
      refine same_toJson_union e ?_
      rintro variants' rfl a ha b hb
      cases he with
      | union hseveral' hplain' hdistinct' hvariants' => exact ih a ha (hvariants a ha) (hvariants' b hb)
  | unknown => exact same_toJson_unknown e

/-! ## The alternatives of a node -/

/-- the keyword `anyOf` is written for unions only -/
theorem exists_of_mem_schemaMembers {node : Descriptor} {nodes : List Json}
    (h : ("anyOf", .array nodes) ∈ node.schemaMembers) :
    ∃ variants, node = .union variants ∧ nodes = variants.map toJson := by
  cases node with
  | union variants =>
    refine ⟨variants, rfl, ?_⟩
    simpa [schemaMembers, toJson, Json.object?, variantsToJson_eq_map] using h
  | object shape =>
    have hnone : (Schema.objectNode shape).lookup "anyOf" = none := lookup_objectNode_eq_none shape (by decide)
    exact absurd (List.lookup_eq_none_iff.1 hnone _ h) (by simp)
  | _ => simp [schemaMembers, toJson, Json.object?] at h

/-- the nodes that a normal descriptor offers as alternatives are all different, also as JSON values -/
theorem Normal.distinct_anyOf {node : Descriptor} (hnode : node.Normal) {nodes : List Json}
    (h : ("anyOf", .array nodes) ∈ node.schemaMembers) :
    nodes.Nodup ∧ nodes.Pairwise fun a b => a.same b = false := by
  obtain ⟨variants, rfl, rfl⟩ := exists_of_mem_schemaMembers h
  cases hnode with
  | union hseveral hplain hdistinct hvariants =>
    have hvalues : variants.Pairwise fun a b => a.toJson.same b.toJson = false := by
      refine hdistinct.imp_of_mem fun {a b} ha hb hab => ?_
      rw [(hvariants a ha).same_toJson (hvariants b hb), hab]
    refine ⟨?_, List.pairwise_map.2 hvalues⟩
    rw [List.nodup_iff_pairwise_ne, List.pairwise_map]
    refine hvalues.imp_of_mem fun {a b} ha hb hab heq => ?_
    rw [(hvariants a ha).same_toJson (hvariants b hb), (hvariants a ha).toJson_injective (hvariants b hb) heq,
      same_refl (hvariants b hb)] at hab
    cases hab

end Descriptor

/-! ## Answers -/

/-- **Answers that are written alike are equal**, whichever registries and hints they come from: with the keys in order,
and as JSON values up to the order of properties. So no node of an answer offers an alternative twice. -/
theorem resolve_toJson_injective (r r' : Registry) (seen seen' : List String) (h h' : Hint) :
    ((resolve r seen h).value.toJson = (resolve r' seen' h').value.toJson →
        (resolve r seen h).value = (resolve r' seen' h').value) ∧
      (resolve r seen h).value.toJson.same (resolve r' seen' h').value.toJson =
        (resolve r seen h).value.same (resolve r' seen' h').value ∧
      ∀ (node : Descriptor) (nodes : List Json), node.Occurs (resolve r seen h).value →
        ("anyOf", .array nodes) ∈ node.schemaMembers → nodes.Nodup ∧ nodes.Pairwise fun a b => a.same b = false := by
  have hd : (resolve r seen h).value.Normal := (resolve_resolves r seen h).normal
  have he : (resolve r' seen' h').value.Normal := (resolve_resolves r' seen' h').normal
  refine ⟨hd.toJson_injective he, hd.same_toJson he, ?_⟩
  intro node nodes hnode hmem
  exact (hd.of_occurs hnode).distinct_anyOf hmem

/-- a list of scalars, of which some are missing, without a name for the scalars -/
def plainList : Hint :=
  .array (some (.union [.string, .optional .integer]))

theorem resolve_plainList :
    (resolve Registry.empty [] plainList).value =
      .array (.union [.primitive .string, .primitive .integer, .primitive .null]) := by
  have hmembers : (Hint.union [.string, .optional .integer]).members = [.string, .integer, .null] := rfl
  rw [plainList, resolve, Traced.bind_value, resolve, hmembers, resolveUnion_value (by decide)]
  simp only [List.map_cons, List.map_nil, resolve]
  rfl

/-- both lists have one answer, with three alternatives -/
theorem resolve_toJson_injective_scalarList :
    (resolve scalars [] scalarList).value = (resolve Registry.empty [] plainList).value ∧
      ([Descriptor.primitive .string, .primitive .integer, .primitive .null].map Descriptor.toJson).Nodup := by
  have hwritten : (resolve scalars [] scalarList).value.toJson =
      (resolve Registry.empty [] plainList).value.toJson := by
    rw [resolve_scalarList, resolve_plainList]
  have hoccurs : (Descriptor.union [.primitive .string, .primitive .integer, .primitive .null]).Occurs
      (resolve scalars [] scalarList).value := by
    rw [resolve_scalarList]
    exact .item .self
  obtain ⟨hequal, -, hdistinct⟩ := resolve_toJson_injective scalars Registry.empty [] [] scalarList plainList
  exact ⟨hequal hwritten, (hdistinct _ _ hoccurs (List.Mem.head _)).1⟩

end ToolSchema
