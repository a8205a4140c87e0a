/-
Reading back the schema node of a descriptor.

Writing, reading and resolving are three recursions of their own. They meet in `readback`, which says for each
descriptor what hint its node should be read as:
- `readSchema_toJson`: reading the node of a descriptor gives this hint, whatever the document around it is;
- `resolve_readback`: resolving this hint gives the descriptor, whatever is registered or under expansion.
Both hold for the descriptors that say everything in a way of which reading and resolution keep every part
(`Readable`): several types beside each other are different, and at least two of them are not null. Together,
`descriptor_ofSchema_toJson`: such a descriptor is what its own node resolves to.
-/
import ToolSchema.Proofs.Descriptor.Build
import ToolSchema.Proofs.Hint.Reading
import ToolSchema.Proofs.Resolve.Resolves

namespace ToolSchema

/-! ## Descriptors that their node gives back -/

/-- the hint for scalars of a kind -/
def Kind.hint : Kind → Hint
  | .string => .string
  | .integer => .integer
  | .number => .number
  | .boolean => .boolean
  | .null => .null

def Additional.isForbidden {α : Type} : Additional α → Bool
  | .forbidden => true
  | _ => false

namespace Descriptor

def isNull : Descriptor → Bool
  | .primitive .null => true
  | _ => false

def isEnum : Descriptor → Bool
  | .enum _ => true
  | _ => false

/-- every part of the descriptor survives in its node and in the reading of the node -/
inductive Readable : Descriptor → Prop
  | primitive (kind : Kind) : Readable (.primitive kind)
  | unknown : Readable .unknown
  | array {item : Descriptor} (hitem : Readable item) : Readable (.array item)
  | enum {values : List Json} (hne : values ≠ []) (hscalar : ∀ v ∈ values, v.isScalar = true)
    (hdistinct : values.Pairwise fun u v => u.same v = false) : Readable (.enum values)
  | object {properties : List (String × Descriptor)} {required : List String} {additional : Additional Descriptor}
    (hne : properties ≠ []) (hkeys : (Entries.keys properties).Nodup) (hproperties : ∀ p ∈ properties, Readable p.2)
    (hrequired : required.Sublist (Entries.keys properties))
    (hadditional : additional = .unconstrained ∨ additional = .forbidden) :
    Readable (.object ⟨properties, required, additional⟩)
  | mapping {additional : Additional Descriptor} (hvalues : ∀ type, additional = .values type → Readable type) :
    Readable (.object ⟨[], [], additional⟩)
  | union {variants : List Descriptor} (hvariants : ∀ d ∈ variants, Readable d)
    (hdistinct : variants.Pairwise fun a b => a.same b = false)
    (hplain : ∀ d ∈ variants, d.isUnion = false ∧ d.isUnknown = false)
    (hseveral : 2 ≤ (variants.filter (!·.isNull)).length) (hmixed : ∃ d ∈ variants, d.isEnum = false) :
    Readable (.union variants)

mutual

/-- the hint that the node of a descriptor is read as -/
def readback : Descriptor → Hint
  | .primitive kind => kind.hint
  | .array item => .array (some (readback item))
  | .object ⟨properties, required, additional⟩ =>
    match properties with
    | [] => mappingReadback additional
    | _ :: _ => .record ⟨none, fieldsReadback required properties, additional.isForbidden⟩
  | .enum values => .literal values
  | .union variants => .union (variantsReadback variants)
  | .unknown => .any

def variantsReadback : List Descriptor → List Hint
  | [] => []
  | d :: rest => readback d :: variantsReadback rest

def fieldsReadback (required : List String) : List (String × Descriptor) → List (Field Hint)
  | [] => []
  | (name, d) :: rest => ⟨name, readback d, required.contains name⟩ :: fieldsReadback required rest

/-- an object without properties is a mapping, unless it is closed -/
def mappingReadback : Additional Descriptor → Hint
  | .unconstrained => .map none none
  | .forbidden => .record ⟨none, [], true⟩
  | .values type => .map (some .string) (some (readback type))

end

theorem variantsReadback_eq_map (variants : List Descriptor) : variantsReadback variants = variants.map readback := by
  induction variants with
  | nil => rfl
  | cons d rest ih => simp only [variantsReadback, ih, List.map_cons]

theorem fieldsReadback_eq_map (required : List String) (properties : List (String × Descriptor)) :
    fieldsReadback required properties = properties.map fun p => ⟨p.1, p.2.readback, required.contains p.1⟩ := by
  induction properties with
  | nil => rfl
  | cons p rest ih => simp only [fieldsReadback, ih, List.map_cons]

theorem readback_object {properties : List (String × Descriptor)} (hne : properties ≠ []) (required : List String)
    (additional : Additional Descriptor) :
    (object ⟨properties, required, additional⟩).readback =
      .record ⟨none, fieldsReadback required properties, additional.isForbidden⟩ := by
  obtain ⟨p, rest, rfl⟩ := List.exists_cons_of_ne_nil hne
  rfl

theorem isNull_readback (d : Descriptor) : d.readback.isNull = d.isNull := by
  cases d with
  | primitive kind => cases kind <;> rfl
  | object shape =>
    obtain ⟨properties, required, additional⟩ := shape
    cases properties with
    | nil => cases additional <;> rfl
    | cons p rest => rfl
  | _ => rfl

/-- only the hint of a union has several members -/
theorem members_readback {d : Descriptor} (h : d.isUnion = false) : d.readback.members = [d.readback] := by
  cases d with
  | primitive kind => cases kind <;> rfl
  | object shape =>
    obtain ⟨properties, required, additional⟩ := shape
    cases properties with
    | nil => cases additional <;> rfl
    | cons p rest => rfl
  | union variants => cases h
  | _ => rfl

end Descriptor

/-! ## Reading the node -/

namespace Hint

variable {root : Json} {stack : List String} {node : List (String × Json)}

theorem readKind_scalar (kind : Kind) : (readKind root stack node kind.name).value = kind.hint := by
  cases kind <;>
    · rw [Kind.name, readKind]
      rfl

end Hint

namespace Descriptor

open Hint

variable {root : Json} {stack : List String}

/-- a node says that it is an object before it says anything else -/
theorem of_objectNode (shape : Shape Descriptor) : Node.of (Schema.objectNode shape) = .typed ["object"] := by
  obtain ⟨properties, required, additional⟩ := shape
  cases properties <;> cases additional <;> rfl

theorem readSchema_objectNode (shape : Shape Descriptor) :
    (readSchema root stack (toJson (.object shape))).value =
      (readKind root stack (Schema.objectNode shape) "object").value :=
  readSchema_typed (of_objectNode shape)

theorem requiredNames_objectNode {properties : List (String × Descriptor)} (hne : properties ≠ [])
    (required : List String) (additional : Additional Descriptor) :
    requiredNames (Schema.objectNode ⟨properties, required, additional⟩) = required := by
  have hnames : (required.map Json.string).filterMap Json.string? = required := by
    rw [List.filterMap_map]
    exact List.filterMap_some
  obtain ⟨p, rest, rfl⟩ := List.exists_cons_of_ne_nil hne
  exact hnames

/-- what holds for other keys is said in one place, whatever is declared -/
theorem lookup_additional (shape : Shape Descriptor) :
    (Schema.objectNode shape).lookup "additionalProperties" =
      match shape.additional with
      | .unconstrained => none
      | .forbidden => some (.bool false)
      | .values type => some type.toJson := by
  obtain ⟨properties, required, additional⟩ := shape
  cases properties <;> cases additional <;> rfl

theorem isClosed_objectNode (shape : Shape Descriptor) :
    isClosed (Schema.objectNode shape) = shape.additional.isForbidden := by
  rw [isClosed, lookup_additional]
  cases shape.additional with
  | values type => simp only [toJson_eq type, Additional.isForbidden]
  | _ => rfl

theorem values?_objectNode {shape : Shape Descriptor} {type : Descriptor} (hvalues : shape.additional = .values type) :
    values? (Schema.objectNode shape) = some type.toJson := by
  rw [values?, lookup_additional, hvalues]
  simp only [toJson_eq type, Option.filter_some, if_true]

theorem readback_ne_literal {d : Descriptor} (h : d.isEnum = false) (values : List Json) :
    d.readback ≠ .literal values := by
  cases d with
  | primitive kind => cases kind <;> nofun
  | object shape =>
    obtain ⟨properties, required, additional⟩ := shape
    cases properties with
    | nil => cases additional <;> nofun
    | cons p rest => nofun
  | enum values => cases h
  | _ => nofun

/-- several alternatives that are not all literals are a union -/
theorem ofAlternatives_eq_union {hints : List Hint} (hseveral : 2 ≤ hints.length)
    (hmixed : ∃ h ∈ hints, ∀ values, h ≠ .literal values) : ofAlternatives hints = .union hints := by
  have hliterals : ofAlternatives.literals? hints = none := by
    clear hseveral
    induction hints with
    | nil => simp at hmixed
    | cons hint rest ih =>
      cases hint with
      | literal values =>
        obtain ⟨h, hmem, hne⟩ := hmixed
        rcases List.mem_cons.1 hmem with rfl | hrest
        · exact absurd rfl (hne values)
        · rw [ofAlternatives.literals?, ih ⟨h, hrest, hne⟩, Option.map_none]
      | _ => rfl
  cases hints with
  | nil => simp at hseveral
  | cons first more =>
    cases more with
    | nil => simp at hseveral
    | cons second rest => simp only [ofAlternatives, hliterals]

/-- **The node of a descriptor, read.** Neither the document around it nor what is being expanded there matters. -/
theorem readSchema_toJson {d : Descriptor} (hd : d.Readable) (root : Json) (stack : List String) :
    (readSchema root stack d.toJson).value = d.readback := by
  induction hd with
  | primitive kind => exact (readSchema_typed rfl).trans (readKind_scalar kind)
  | unknown => exact readSchema_untyped rfl
  | @array item hitem ih =>
    have hitems : items? [("type", .string "array"), ("items", item.toJson)] = some item.toJson := by
      rw [toJson_eq item]
      rfl
    calc (readSchema root stack (toJson (.array item))).value
      _ = _ := (readSchema_typed rfl).trans (readKind_array hitems)
      _ = (array item).readback := by rw [ih, readback]
  | enum hne hscalar hdistinct => exact readSchema_literal rfl
  | @object properties required additional hne hkeys hproperties hrequired hadditional ih =>
    have hproperties? : properties? (Schema.objectNode ⟨properties, required, additional⟩) =
        some (properties.map fun p => (p.1, p.2.toJson)) := by
      rw [← propertiesToJson_eq_map]
      obtain ⟨p, rest, rfl⟩ := List.exists_cons_of_ne_nil hne
      rfl
    have htitle : (Schema.objectNode ⟨properties, required, additional⟩).lookup "title" = none := by
      cases properties <;> cases additional <;> rfl
    have hfields : (properties.map fun p => (p.1, p.2.toJson)).map (fun p =>
          (⟨p.1, (readSchema root stack p.2).value, required.contains p.1⟩ : Field Hint)) =
        fieldsReadback required properties := by
      rw [fieldsReadback_eq_map, List.map_map]
      apply List.map_congr_left
      intro p hp
      rw [Function.comp_apply, ih p hp]
    rw [readSchema_objectNode, readKind_record hproperties?, htitle, requiredNames_objectNode hne,
      isClosed_objectNode, hfields, readback_object hne]
    rfl
  | @mapping additional hvalues ih =>
    have hproperties? : properties? (Schema.objectNode ⟨[], [], additional⟩) = none := by
      cases additional <;> rfl
    rw [readSchema_objectNode, readKind_mapping hproperties?, isClosed_objectNode]
    cases additional with
    | unconstrained => rfl
    | forbidden => rfl
    | values type =>
      rw [values?_objectNode rfl]
      simp only [Additional.isForbidden, Bool.false_eq_true, if_false, ih type rfl]
      rfl
  | @union variants hvariants hdistinct hplain hseveral hmixed ih =>
    have hread : (variants.map toJson).map (fun schema => (readSchema root stack schema).value) =
        variants.map readback := by
      rw [List.map_map]
      exact List.map_congr_left ih
    have hlength : 2 ≤ (variants.map readback).length := by
      rw [List.length_map]
      exact Nat.le_trans hseveral (List.length_filter_le _ _)
    have hunion : ofAlternatives (variants.map readback) = .union (variants.map readback) := by
      obtain ⟨d, hd, henum⟩ := hmixed
      exact ofAlternatives_eq_union hlength ⟨_, List.mem_map_of_mem hd, readback_ne_literal henum⟩
    calc (readSchema root stack (toJson (.union variants))).value
      _ = ofAlternatives ((variantsToJson variants).map fun schema => (readSchema root stack schema).value) :=
        readSchema_alternatives rfl
      _ = (union variants).readback := by
        rw [variantsToJson_eq_map, hread, hunion, readback, variantsReadback_eq_map]

/-! ## Resolving the hint -/

variable {r : Registry} {seen : List String}

theorem allMembers_eq_self {hints : List Hint} (h : ∀ hint ∈ hints, hint.members = [hint]) :
    allMembers hints = hints := by
  induction hints with
  | nil => rfl
  | cons hint rest ih =>
    rw [List.forall_mem_cons] at h
    rw [allMembers, h.1, ih h.2, List.singleton_append]

theorem resolveLiteral_value {values : List Json} (hne : values ≠ []) (hscalar : ∀ v ∈ values, v.isScalar = true) :
    (resolveLiteral values).value = .enum (distinctValues [] values) := by
  have hfind : values.find? (!·.isScalar) = none := by
    rw [List.find?_eq_none]
    intro v hv
    simp [hscalar v hv]
  rw [resolveLiteral, if_neg (by simpa using hne), hfind]
  rfl

/-- several different types are a union as they are -/
theorem ofVariants_eq_union {variants : List Descriptor} (hseveral : 2 ≤ variants.length)
    (hdistinct : variants.Pairwise fun a b => a.same b = false)
    (hplain : ∀ d ∈ variants, d.isUnion = false ∧ d.isUnknown = false) : ofVariants variants = .union variants := by
  have hflat : variants.flatMap Descriptor.variants = variants := by
    calc variants.flatMap Descriptor.variants
      _ = variants.flatMap fun d => [d] := by
        refine List.flatMap_congr fun d hd => ?_
        have hunion := (hplain d hd).1
        cases d with
        | union vs => cases hunion
        | _ => rfl
      _ = variants := List.flatMap_singleton' variants
  have hvariants : distinctVariants variants = variants := by
    rw [distinctVariants, hflat]
    exact collect_eq_append hdistinct
  rcases ofVariants_cases variants with ⟨-, hany⟩ | ⟨d, -, hsingle, -⟩ | ⟨heq, -⟩
  · obtain ⟨d, hd, hunknown⟩ := List.any_eq_true.1 hany
    rw [hvariants] at hd
    rw [(hplain d hd).2] at hunknown
    cases hunknown
  · rw [hvariants] at hsingle
    simp [hsingle] at hseveral
  · rw [heq, hvariants]

/-- names in order of declaration that are all different are found by looking each of them up -/
theorem filter_contains_of_sublist {names keys : List String} (h : names.Sublist keys) (hkeys : keys.Nodup) :
    keys.filter names.contains = names := by
  induction h with
  | slnil => rfl
  | @cons names keys key h ih =>
    rw [List.nodup_cons] at hkeys
    have hkey : names.contains key = false := by
      rw [← Bool.not_eq_true, List.contains_iff_mem]
      exact fun hmem => hkeys.1 (h.subset hmem)
    rw [List.filter_cons, hkey, ih hkeys.2]
    rfl
  | @cons_cons names keys key h ih =>
    rw [List.nodup_cons] at hkeys
    have hrest : keys.filter (key :: names).contains = keys.filter names.contains := by
      refine List.filter_congr fun k hk => ?_
      have hne : k ≠ key := fun heq => hkeys.1 (heq ▸ hk)
      simp [hne]
    rw [List.filter_cons, if_pos (by simp), hrest, ih hkeys.2]

/-- the record that an object is read as declares each of its properties once -/
theorem resolveFields_fieldsReadback {properties : List (String × Descriptor)} {required : List String} (closed : Bool)
    (hkeys : (Entries.keys properties).Nodup) (hrequired : required.Sublist (Entries.keys properties))
    (hproperties : ∀ p ∈ properties, (resolve r seen p.2.readback).value = p.2) :
    (resolveFields r seen (.opening closed) (fieldsReadback required properties)).value =
      .object ⟨properties, required, if closed then .forbidden else .unconstrained⟩ := by
  have htyped : (fieldsReadback required properties).map (fun f => f.withType (resolve r seen f.hint).value) =
      properties.map fun p => (⟨p.1, p.2, required.contains p.1⟩ : Field Descriptor) := by
    rw [fieldsReadback_eq_map, List.map_map]
    apply List.map_congr_left
    intro p hp
    rw [Function.comp_apply, Field.withType, hproperties p hp]
  have hnames : (properties.map fun p => (⟨p.1, p.2, required.contains p.1⟩ : Field Descriptor)).map Field.name =
      Entries.keys properties := by
    rw [List.map_map]
    rfl
  have hkept : ((properties.map fun p => (⟨p.1, p.2, required.contains p.1⟩ : Field Descriptor)).filter
      Field.required).map Field.name = required := by
    calc _ = (Entries.keys properties).filter required.contains := by
          rw [List.filter_map, List.map_map, Entries.keys, List.filter_map]
          rfl
      _ = required := filter_contains_of_sublist hrequired hkeys
  have hpairs : (properties.map fun p => (⟨p.1, p.2, required.contains p.1⟩ : Field Descriptor)).map
      (fun f => (f.name, f.hint)) = properties := by
    rw [List.map_map]
    exact List.map_id properties
  rw [resolveFields_value, htyped, Shape.declareAll_eq_append, hkept, hpairs]
  · rfl
  · rw [hnames]
    exact hkeys

/-- **The hint of a descriptor, resolved.** Neither what is registered nor what is being expanded matters. -/
theorem resolve_readback {d : Descriptor} (hd : d.Readable) (r : Registry) (seen : List String) :
    (resolve r seen d.readback).value = d := by
  induction hd with
  | primitive kind =>
    cases kind <;>
      · rw [readback, Kind.hint, resolve]
        rfl
  | unknown =>
    rw [readback, resolve]
    rfl
  | array hitem ih =>
    rw [readback, resolve, Traced.bind_value, Traced.pure_value, ih]
  | enum hne hscalar hdistinct =>
    rw [readback, resolve, resolveLiteral_value hne hscalar, distinctValues_eq_collect]
    exact congrArg enum (collect_eq_append hdistinct)
  | @object properties required additional hne hkeys hproperties hrequired hadditional ih =>
    rw [readback_object hne, resolve, resolveFields_fieldsReadback _ hkeys hrequired ih]
    rcases hadditional with rfl | rfl <;> rfl
  | @mapping additional hvalues ih =>
    cases additional with
    | unconstrained =>
      simp only [readback, mappingReadback, resolve]
      rfl
    | forbidden =>
      simp only [readback, mappingReadback, resolve, resolveFields_value]
      rfl
    | values type =>
      simp only [readback, mappingReadback, resolve, Hint.isStringKey, if_true, Traced.bind_value, Traced.pure_value,
        ih type rfl]
  | @union variants hvariants hdistinct hplain hseveral hmixed ih =>
    have hmembers : (Hint.union (variants.map readback)).members = variants.map readback :=
      allMembers_eq_self (List.forall_mem_map.2 fun d hd => members_readback (hplain d hd).1)
    have hnull : ((variants.map readback).filter (!·.isNull)).length = (variants.filter (!·.isNull)).length := by
      rw [List.filter_map, List.length_map]
      simp only [Function.comp_def, isNull_readback]
    have hresolved : (variants.map readback).map (fun h => (resolve r seen h).value) = variants := by
      rw [List.map_map]
      exact (List.map_congr_left ih).trans (List.map_id variants)
    rw [readback, variantsReadback_eq_map, resolve, hmembers, resolveUnion_value (by rw [hnull]; exact hseveral),
      hresolved]
    exact ofVariants_eq_union (Nat.le_trans hseveral (List.length_filter_le _ _)) hdistinct hplain

/-! ## There and back -/

/-- **A rendered type is read back as it was.** Of a type that every part of survives in its node: the node, read as a
document and resolved against any registry, gives the type again. -/
theorem descriptor_ofSchema_toJson (r : Registry) (d : Descriptor) (hd : d.Readable) :
    (ofSchema d.toJson).value.descriptor r = d := by
  rw [ofSchema, readSchema_toJson hd, Hint.descriptor, resolve_readback hd]

/-- a closed object whose properties are named like keywords -/
def keywordNamed : Descriptor :=
  .object ⟨[("$ref", .array .unknown),
      ("title", .union [.primitive .null, .enum [.string "anyOf", .number (.int 1)], .object ⟨[], [], .forbidden⟩]),
      ("additionalProperties", .object ⟨[], [], .values (.primitive .string)⟩)],
    ["$ref", "additionalProperties"], .forbidden⟩

theorem readable_keywordNamed : keywordNamed.Readable := by
  have hitems : (array unknown).Readable := .array .unknown
  have hchoice : (enum [.string "anyOf", .number (.int 1)]).Readable := .enum nofun (by decide) (by decide)
  have hclosed : (object ⟨[], [], .forbidden⟩).Readable := .mapping nofun
  have hunion : (union [.primitive .null, .enum [.string "anyOf", .number (.int 1)],
      .object ⟨[], [], .forbidden⟩]).Readable := by
    refine .union ?_ (by decide) (by decide) (by decide) ⟨_, List.mem_cons_self, rfl⟩
    simp [Readable.primitive, hchoice, hclosed]
  have hmapping : (object ⟨[], [], .values (.primitive .string)⟩).Readable := by
    refine .mapping fun type htype => ?_
    cases htype
    exact .primitive .string
  refine .object nofun (by decide) ?_ (by decide) (.inr rfl)
  simp [hitems, hunion, hmapping]

theorem descriptor_ofSchema_keywordNamed :
    keywordNamed.Readable ∧ (ofSchema keywordNamed.toJson).value.descriptor chains = keywordNamed :=
  ⟨readable_keywordNamed, descriptor_ofSchema_toJson chains keywordNamed readable_keywordNamed⟩

end Descriptor

end ToolSchema
