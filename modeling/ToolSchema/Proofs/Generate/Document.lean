/-
What a built document says.

`build` goes through the parameters once, and what it puts into the document for one of them depends on this parameter
alone (`infoOf`, `parameterInfos_eq_map`). Names are different, so no property replaces another.
- `ParameterInfo.property_eq`: a property is the node of its type with the annotations behind it. Both kinds of keys
  stay apart (`keys_schemaMembers_sublist`, `keys_annotations_sublist`), whatever the fields of the type are called.
- `Document.lists_of_parameters`: the required and the defaulted names are a partition of the properties.
- `Generator.says_infoOf`: each property says all of its parameter.
- `Generator.build_complete`: so does every document that is built.
-/
import Mathlib.Data.List.Nodup
import ToolSchema.Proofs.Descriptor.Accepts
import ToolSchema.Proofs.Entries
import ToolSchema.Proofs.Generate.Failure
import ToolSchema.Proofs.Resolve.Resolves

namespace ToolSchema

/-! ## Properties -/

/-- the keys that are added to the node of a type -/
def annotationKeys : List String := ["description", "default"]

/-- a node without what was added to it -/
def unannotated (node : Entries Json) : Entries Json :=
  node.filter fun e => e.1 ∉ annotationKeys

namespace Descriptor

/-- the keys of the nodes of types, in the order in which they are written -/
def keywords : List String :=
  ["type", "items", "properties", "required", "additionalProperties", "enum", "anyOf"]

theorem keys_declared_sublist (properties : List (String × Json)) (required : List String) :
    (Entries.keys (declared properties required)).Sublist ["properties", "required"] := by
  cases properties with
  | nil => exact List.nil_sublist _
  | cons p rest => exact List.Sublist.refl _

theorem keys_additionalToJson_sublist (additional : Additional Descriptor) :
    (Entries.keys (additionalToJson additional)).Sublist ["additionalProperties"] := by
  cases additional with
  | unconstrained => exact List.nil_sublist _
  | forbidden => exact List.Sublist.refl _
  | values type => exact List.Sublist.refl _

/-- Only keywords are keys of a node; the names of fields stand one level deeper. -/
theorem keys_schemaMembers_sublist (d : Descriptor) : (Entries.keys d.schemaMembers).Sublist keywords := by
  cases d with
  | primitive kind => exact (by decide : List.Sublist ["type"] keywords)
  | array item => exact (by decide : List.Sublist ["type", "items"] keywords)
  | object shape =>
    have hkeys : Entries.keys (schemaMembers (.object shape)) =
        "type" :: (Entries.keys (declared (propertiesToJson shape.properties) shape.required) ++
          Entries.keys (additionalToJson shape.additional)) := congrArg _ List.map_append
    rw [hkeys]
    have hlater := (keys_declared_sublist (propertiesToJson shape.properties) shape.required).append
      (keys_additionalToJson_sublist shape.additional)
    exact (hlater.cons_cons "type").trans (by decide)
  | enum values => exact (by decide : List.Sublist ["enum"] keywords)
  | union variants => exact (by decide : List.Sublist ["anyOf"] keywords)
  | unknown => exact List.nil_sublist _

theorem not_mem_keys (d : Descriptor) {key : String} (h : key ∈ annotationKeys) :
    key ∉ Entries.keys d.schemaMembers := by
  have hdistinct : ∀ k ∈ keywords, k ∉ annotationKeys := by decide
  intro hmem
  exact hdistinct key (d.keys_schemaMembers_sublist.subset hmem) h

end Descriptor

namespace ParameterInfo

/-- what is added to the node of the type -/
def annotations (p : ParameterInfo) : Entries Json :=
  (p.description.map fun text => ("description", Json.string text)).toList ++
    (p.defaultValue.map fun value => ("default", value)).toList

theorem putSome_of_not_mem {key : String} {value : Option Json} {node : Entries Json} (h : key ∉ Entries.keys node) :
    putSome key value node = node ++ (value.map fun j => (key, j)).toList := by
  cases value with
  | none => exact (List.append_nil node).symm
  | some j => exact Entries.put_of_not_mem h

theorem property_eq (p : ParameterInfo) : p.property = .object (p.descriptor.schemaMembers ++ p.annotations) := by
  have hdescription : "description" ∉ Entries.keys p.descriptor.schemaMembers := p.descriptor.not_mem_keys (by decide)
  have hdefault : "default" ∉
      Entries.keys (putSome "description" (p.description.map .string) p.descriptor.schemaMembers) := by
    rw [putSome_of_not_mem hdescription, Entries.keys, List.map_append, List.mem_append, not_or]
    refine ⟨p.descriptor.not_mem_keys (by decide), ?_⟩
    cases p.description <;> simp
  rw [property, putSome_of_not_mem hdefault, putSome_of_not_mem hdescription, List.append_assoc, Option.map_map]
  rfl

/-- without the annotations, the node of the type is left -/
theorem unannotated_property (p : ParameterInfo) :
    unannotated (p.descriptor.schemaMembers ++ p.annotations) = p.descriptor.schemaMembers := by
  have hnode : unannotated p.descriptor.schemaMembers = p.descriptor.schemaMembers := by
    rw [unannotated, List.filter_eq_self]
    intro e he
    rw [decide_eq_true_iff]
    intro hkey
    exact p.descriptor.not_mem_keys hkey (List.mem_map_of_mem he)
  have hannotations : unannotated p.annotations = [] := by
    rw [annotations]
    cases p.description <;> cases p.defaultValue <;> rfl
  calc unannotated (p.descriptor.schemaMembers ++ p.annotations)
    _ = unannotated p.descriptor.schemaMembers ++ unannotated p.annotations := List.filter_append _ _
    _ = p.descriptor.schemaMembers := by rw [hnode, hannotations, List.append_nil]

/-- an annotation is read from behind the node -/
theorem lookup_property (p : ParameterInfo) {key : String} (hkey : key ∈ annotationKeys) :
    (p.descriptor.schemaMembers ++ p.annotations).lookup key = p.annotations.lookup key := by
  rw [List.lookup_append, Entries.lookup_eq_none_of_not_mem (p.descriptor.not_mem_keys hkey), Option.none_or]

theorem keys_toList_sublist {α : Type} (key : String) (value : α → Json) (a : Option α) :
    (Entries.keys (a.map fun x => (key, value x)).toList).Sublist [key] := by
  cases a with
  | none => exact List.nil_sublist _
  | some x => exact List.Sublist.refl _

theorem keys_annotations_sublist (p : ParameterInfo) : (Entries.keys p.annotations).Sublist annotationKeys := by
  rw [annotations, Entries.keys, List.map_append]
  exact (keys_toList_sublist "description" Json.string p.description).append
    (keys_toList_sublist "default" id p.defaultValue)

/-- no key of a property stands there twice -/
theorem nodup_property (p : ParameterInfo) : (Entries.keys (p.descriptor.schemaMembers ++ p.annotations)).Nodup := by
  have hkeys : (Descriptor.keywords ++ annotationKeys).Nodup := by decide
  rw [Entries.keys, List.map_append]
  exact hkeys.sublist (p.descriptor.keys_schemaMembers_sublist.append p.keys_annotations_sublist)

theorem lookup_description (p : ParameterInfo) : p.annotations.lookup "description" = p.description.map .string := by
  rw [annotations, List.lookup_append]
  cases p.description with
  | none => cases p.defaultValue <;> rfl
  | some text => rfl

theorem lookup_default (p : ParameterInfo) : p.annotations.lookup "default" = p.defaultValue := by
  rw [annotations, List.lookup_append]
  cases p.description <;> cases p.defaultValue <;> rfl

end ParameterInfo

/-! ## Documents of different parameters -/

namespace Document

variable {d : Document}

theorem properties_eq (h : (d.parameters.map ParameterInfo.name).Nodup) :
    d.properties = d.parameters.map fun p => (p.name, p.property) := by
  apply Entries.ofList_eq_self
  rw [Entries.keys, List.map_map]
  exact h

theorem keys_properties (h : (d.parameters.map ParameterInfo.name).Nodup) :
    Entries.keys d.properties = d.parameters.map ParameterInfo.name := by
  rw [properties_eq h, Entries.keys, List.map_map]
  rfl

theorem lookup_properties (h : (d.parameters.map ParameterInfo.name).Nodup) {p : ParameterInfo}
    (hp : p ∈ d.parameters) : d.properties.lookup p.name = some p.property := by
  have hkeys : (Entries.keys d.properties).Nodup := by rwa [keys_properties h]
  refine Entries.lookup_of_mem hkeys ?_
  rw [properties_eq h]
  exact List.mem_map_of_mem hp

end Document

/-! ## Building -/

theorem Outcome.exists_of_bind_ok {α β : Type} {x : Outcome α} {f : α → Outcome β} {b : β}
    (h : (x >>= f).run.value = .ok b) : ∃ a, x.run.value = .ok a ∧ (f a).run.value = .ok b := by
  rw [value_bind] at h
  cases hx : x.run.value with
  | ok a =>
    rw [hx] at h
    exact ⟨a, rfl, h⟩
  | error e =>
    rw [hx] at h
    cases h

namespace Generator

variable {g : Generator} {m : Docstring.Model} {parameters : List Parameter}

/-- the type of a parameter, if it has one -/
def resolved (g : Generator) (p : Parameter) : Descriptor :=
  match p.hint with
  | some h => (resolve g.registry [] h).value
  | none => .unknown

/-- what a document says about a parameter -/
def infoOf (g : Generator) (m : Docstring.Model) (p : Parameter) : ParameterInfo where
  name := p.name
  descriptor := g.resolved p
  description := (m.descriptionOf? p.name).filter (!·.isEmpty)
  hasDefault := p.hasDefault
  defaultValue := embedded g.options p

theorem descriptor_eq_resolved {p : Parameter} {d : Descriptor} (h : (g.descriptor p).run.value = .ok d) :
    d = g.resolved p := by
  rw [descriptor] at h
  rw [resolved]
  cases hhint : p.hint with
  | none =>
    rw [hhint] at h
    cases h
    rfl
  | some hint =>
    rw [hhint] at h
    simp only at h
    split at h
    · cases h
    · cases h
      rfl

theorem parameterInfo_eq_infoOf {p : Parameter} {info : ParameterInfo}
    (h : (g.parameterInfo m p).run.value = .ok info) : info = g.infoOf m p := by
  obtain ⟨d, hd, hinfo⟩ := Outcome.exists_of_bind_ok h
  cases hinfo
  rw [infoOf, ← descriptor_eq_resolved hd]

/-- one parameter after the other, and each by itself -/
theorem parameterInfos_eq_map {infos : List ParameterInfo} (h : (g.parameterInfos m parameters).run.value = .ok infos) :
    infos = parameters.map (g.infoOf m) := by
  induction parameters generalizing infos with
  | nil =>
    cases h
    rfl
  | cons p rest ih =>
    obtain ⟨info, hinfo, h⟩ := Outcome.exists_of_bind_ok h
    obtain ⟨more, hmore, h⟩ := Outcome.exists_of_bind_ok h
    cases h
    rw [List.map_cons, parameterInfo_eq_infoOf hinfo, ih hmore]

theorem nodup_of_checkDistinct {u : Unit} (h : checkDistinct parameters = .ok u) :
    (parameters.map Parameter.name).Nodup := by
  have hpasses := failureOf?_checkDistinct parameters
  by_contra hrepeat
  rw [h, if_pos hrepeat] at hpasses
  cases hpasses

theorem build_ok {d : Document} (h : (g.build parameters m).run.value = .ok d) :
    (parameters.map Parameter.name).Nodup ∧ d.parameters = (g.kept parameters).map (g.infoOf m) := by
  obtain ⟨u, hcheck, h⟩ := Outcome.exists_of_bind_ok h
  obtain ⟨infos, hinfos, h⟩ := Outcome.exists_of_bind_ok h
  cases h
  exact ⟨nodup_of_checkDistinct hcheck, parameterInfos_eq_map hinfos⟩

end Generator

/-! ## Completeness -/

namespace Document

variable {kept : List Parameter} {d : Document}

/-- the names of the parameters that have a default -/
def defaultedNames (kept : List Parameter) : List String :=
  (kept.filter fun p => !p.isRequired).map Parameter.name

/-- The document lists these parameters, each once and in order, and its required names are the part without a
default. -/
structure Lists (kept : List Parameter) (d : Document) : Prop where
  nodup : (kept.map Parameter.name).Nodup
  parameters : d.parameters.map ParameterInfo.name = kept.map Parameter.name
  properties : Entries.keys d.properties = kept.map Parameter.name
  required : d.required = (kept.filter fun p => p.isRequired).map Parameter.name
  disjoint : ∀ name ∈ d.required, name ∉ defaultedNames kept
  cover : ∀ name, name ∈ Entries.keys d.properties ↔ name ∈ d.required ∨ name ∈ defaultedNames kept

theorem disjoint_names (h : (kept.map Parameter.name).Nodup) :
    ∀ name ∈ (kept.filter fun p => p.isRequired).map Parameter.name, name ∉ defaultedNames kept := by
  intro name hrequired hdefaulted
  obtain ⟨p, hp, rfl⟩ := List.mem_map.1 hrequired
  obtain ⟨q, hq, hname⟩ := List.mem_map.1 hdefaulted
  obtain ⟨hmemp, hp⟩ := List.mem_filter.1 hp
  obtain ⟨hmemq, hq⟩ := List.mem_filter.1 hq
  -- names are different, so it is one parameter
  have heq : q = p := List.inj_on_of_nodup_map h hmemq hmemp hname
  rw [heq, hp] at hq
  cases hq

theorem mem_names_iff (name : String) :
    name ∈ kept.map Parameter.name ↔
      name ∈ (kept.filter fun p => p.isRequired).map Parameter.name ∨ name ∈ defaultedNames kept := by
  rw [defaultedNames, ← List.mem_append, ← List.map_append]
  exact ((List.filter_append_perm _ kept).map _).mem_iff.symm

theorem lists_of_parameters {g : Generator} {m : Docstring.Model} (hnodup : (kept.map Parameter.name).Nodup)
    (h : d.parameters = kept.map (g.infoOf m)) : d.Lists kept := by
  have hparameters : d.parameters.map ParameterInfo.name = kept.map Parameter.name := by
    rw [h, List.map_map]
    rfl
  have hproperties : Entries.keys d.properties = kept.map Parameter.name := by
    rw [keys_properties (by rwa [hparameters]), hparameters]
  have hrequired : d.required = (kept.filter fun p => p.isRequired).map Parameter.name := by
    rw [required, h, List.filter_map, List.map_map]
    rfl
  refine ⟨hnodup, hparameters, hproperties, hrequired, ?_, fun name => ?_⟩
  · rw [hrequired]
    exact disjoint_names hnodup
  · rw [hproperties, hrequired]
    exact mem_names_iff name

end Document

namespace Generator

/-- the schema of the type of a parameter; without one, anything is accepted -/
def schemaOf (g : Generator) (p : Parameter) : Json :=
  match p.hint with
  | some h => (resolve g.registry [] h).value.toJson
  | none => .object []

/-- A property says all of its parameter: its type, its documentation unless that is empty, and its default unless that
is unknown, or null without the option to write it. -/
structure Says (g : Generator) (m : Docstring.Model) (p : Parameter) (node : Entries Json) : Prop where
  distinct : (Entries.keys node).Nodup
  type : .object (unannotated node) = g.schemaOf p
  description : ∀ v, node.lookup "description" = some v ↔
    ∃ text, m.descriptionOf? p.name = some text ∧ text ≠ "" ∧ v = .string text
  defaultValue : ∀ v, node.lookup "default" = some v ↔
    p.hasDefault ∧ p.defaultValue = some v ∧ (¬ v.isNull ∨ g.options.embedNullDefaults)

theorem toJson_resolved (g : Generator) (p : Parameter) : (g.resolved p).toJson = g.schemaOf p := by
  rw [resolved, schemaOf]
  cases p.hint <;> rfl

theorem embedded_eq_some_iff {o : Options} {p : Parameter} {v : Json} :
    embedded o p = some v ↔ p.hasDefault ∧ p.defaultValue = some v ∧ (¬ v.isNull ∨ o.embedNullDefaults) := by
  rw [embedded, Option.ite_none_right_eq_some, Option.filter_eq_some_iff]
  simp

theorem says_infoOf (g : Generator) (m : Docstring.Model) (p : Parameter) :
    g.Says m p ((g.infoOf m p).descriptor.schemaMembers ++ (g.infoOf m p).annotations) where
  distinct := ParameterInfo.nodup_property _
  type := by
    rw [ParameterInfo.unannotated_property, ← Descriptor.toJson_eq]
    exact toJson_resolved g p
  description := by
    intro v
    rw [ParameterInfo.lookup_property _ (by decide), ParameterInfo.lookup_description, infoOf, Option.map_eq_some_iff]
    constructor
    · rintro ⟨text, htext, rfl⟩
      obtain ⟨hsome, hfilled⟩ := Option.filter_eq_some_iff.1 htext
      exact ⟨text, hsome, by simpa using hfilled, rfl⟩
    · rintro ⟨text, hsome, hfilled, rfl⟩
      exact ⟨text, Option.filter_eq_some_iff.2 ⟨hsome, by simpa using hfilled⟩, rfl⟩
  defaultValue := by
    intro v
    rw [ParameterInfo.lookup_property _ (by decide), ParameterInfo.lookup_default]
    exact embedded_eq_some_iff

/-- **A built document is complete, and it parts its parameters into required and defaulted ones.** The properties and
the parameters of the document are the parameters that are not ignored, each once and in order of declaration; required
are those without a default. Each property is the schema of the type, with the documentation and the default added. -/
theorem build_complete (g : Generator) (parameters : List Parameter) (m : Docstring.Model) (d : Document)
    (h : (g.build parameters m).run.value = .ok d) :
    d.Lists (parameters.filter fun p => p.name ∉ g.options.ignoreArgs) ∧
      ∀ p ∈ parameters, p.name ∉ g.options.ignoreArgs →
        ∃ node, d.properties.lookup p.name = some (.object node) ∧ g.Says m p node := by
  obtain ⟨hnodup, hparameters⟩ := build_ok h
  rw [kept_eq] at hparameters
  have hkept : ((parameters.filter fun p => p.name ∉ g.options.ignoreArgs).map Parameter.name).Nodup :=
    hnodup.sublist (List.filter_sublist.map _)
  have hlists := Document.lists_of_parameters hkept hparameters
  refine ⟨hlists, fun p hp hname => ⟨_, ?_, says_infoOf g m p⟩⟩
  have hmem : g.infoOf m p ∈ d.parameters := by
    rw [hparameters]
    exact List.mem_map_of_mem (List.mem_filter.2 ⟨hp, decide_eq_true hname⟩)
  have hdistinct : (d.parameters.map ParameterInfo.name).Nodup := by
    rw [hlists.parameters]
    exact hkept
  exact (Document.lookup_properties hdistinct hmem).trans (congrArg some (ParameterInfo.property_eq _))

/-- a record whose fields are called like annotations -/
def place : Record Hint :=
  ((Record.empty none).withField "description" .string).withField "default" .string

def forecast : List Parameter :=
  [.required "context" none, .required "place" (some (.record place)),
    ⟨"unit", some .string, true, some .null⟩, ⟨"limit", none, true, none⟩]

def forecastModel : Docstring.Model :=
  { Docstring.Model.empty with params := [("place", ⟨none, some "Where."⟩), ("unit", ⟨none, some ""⟩)] }

def forecaster : Generator := ⟨{ Options.lenient with ignoreArgs := ["context"] }, .empty⟩

theorem schemaOf_place : forecaster.schemaOf (.required "place" (some (.record place))) =
    .object [("type", .string "object"),
      ("properties", .object [("description", .object [("type", .string "string")]),
        ("default", .object [("type", .string "string")])]),
      ("required", .array [.string "description", .string "default"])] := by
  have hfields : resolve forecaster.registry [] (.record place) =
      resolveFields forecaster.registry [] (.opening false) place.fields := by
    rw [place, Record.withField, Record.withField, Record.empty, resolve]
  have htypes : place.fields.map (fun f => f.withType (resolve forecaster.registry [] f.hint).value) =
      [⟨"description", .primitive .string, true⟩, ⟨"default", .primitive .string, true⟩] := by
    simp [place, Record.withField, Record.empty, Field.withType, resolve, Hint.isNullable]
  rw [schemaOf, Parameter.required]
  simp only [hfields, resolveFields_value, htypes]
  rfl

/-- The annotation stands beside the type, not among the fields; the ignored parameter is gone. -/
theorem build_complete_forecast :
    ∃ d, (forecaster.build forecast forecastModel).run.value = .ok d ∧
      Entries.keys d.properties = ["place", "unit", "limit"] ∧ d.required = ["place"] ∧
      ∃ node, d.properties.lookup "place" = some (.object node) ∧
        node.lookup "description" = some (.string "Where.") ∧
        .object (unannotated node) = Json.object [("type", .string "object"),
          ("properties", .object [("description", .object [("type", .string "string")]),
            ("default", .object [("type", .string "string")])]),
          ("required", .array [.string "description", .string "default"])] := by
  obtain ⟨hlists, hsays⟩ := build_complete forecaster forecast forecastModel _ rfl
  obtain ⟨node, hnode, hplace⟩ :=
    hsays (.required "place" (some (.record place))) (List.mem_cons_of_mem _ List.mem_cons_self) (by decide)
  refine ⟨_, rfl, hlists.properties.trans rfl, hlists.required.trans rfl, node, hnode, ?_, ?_⟩
  · exact (hplace.description _).2 ⟨"Where.", by decide, by decide, rfl⟩
  · rw [hplace.type, schemaOf_place]

end Generator

end ToolSchema
