/-
What resolution does to the values of a type.

A hint and the descriptor it resolves to are both sets of values, and resolution only widens where it says so:
- `resolve_valid_of_admits`: nothing that a type admits is rejected by its schema, apart from null, which resolution
  leaves to whether a value is required;
- `admits_of_descriptor_valid`: a schema without unknown parts lets nothing else in, null included.
Both go by the rules that every answer follows (`Resolves`), the first from the hint to the type, the second back.
-/
import ToolSchema.Proofs.Hint.Admits
import ToolSchema.Proofs.Resolve.Resolves

namespace ToolSchema

variable {r : Registry} {h : Hint} {d : Descriptor} {v : Json}

/-! ## Scalars and null -/

theorem Hint.admits_iff_of_kind? {kind : Kind} (hkind : h.kind? = some kind) :
    Admits r h v ↔ kind.name ∈ v.typeNames := by
  constructor
  · intro hv
    cases hv with
    | null | string | boolean =>
      cases hkind
      simp [Json.typeNames, Kind.name]
    | number n =>
      cases hkind
      cases hn : n.isWhole <;> simp [Json.typeNames, Kind.name, hn]
    | integer hn =>
      cases hkind
      simp [Json.typeNames, Kind.name, hn]
    | _ => cases hkind
  · intro hv
    cases h with
    | integer =>
      cases hkind
      cases v with
      | number n =>
        cases hn : n.isWhole with
        | true => exact .integer hn
        | false => simp [Json.typeNames, Kind.name, hn] at hv
      | _ => simp [Json.typeNames, Kind.name] at hv
    | null | string | number | boolean =>
      cases hkind
      cases v with
      | number n => cases hn : n.isWhole <;> simp [Json.typeNames, Kind.name, hn] at hv <;> exact .number n
      | _ => simp [Json.typeNames, Kind.name] at hv <;> constructor
    | _ => cases hkind

theorem Json.eq_null_of_accepts (hv : (Descriptor.primitive .null).Accepts v) : v = .null := by
  cases hv with
  | primitive hkind =>
    cases v with
    | null => rfl
    | number n => cases hn : n.isWhole <;> simp [Json.typeNames, Kind.name, hn] at hkind
    | _ => simp [Json.typeNames, Kind.name] at hkind

/-! ## Records -/

namespace Record

variable {record : Record Hint} {type : Hint → Descriptor} {name : String}

/-- the object that stands for a record -/
def shape (type : Hint → Descriptor) (record : Record Hint) : Shape Descriptor :=
  (Shape.opening record.closed).declareAll (record.typed type)

theorem reflects_shape (type : Hint → Descriptor) (record : Record Hint) :
    Shape.Reflects record.closed (record.typed type) (record.shape type) :=
  Shape.reflects_declareAll record.closed (record.typed type)

theorem last?_typed (type : Hint → Descriptor) (name : String) (record : Record Hint) :
    Field.last? name (record.typed type) =
      (Field.last? name record.fields).map fun f => f.withType (type f.hint) :=
  Field.last?_map (fun f => type f.hint) name record.fields

theorem has_shape : Entries.has name (record.shape type).properties = (Field.last? name record.fields).isSome := by
  have h := (record.reflects_shape type).declares_eq name
  rw [last?_typed, Option.isSome_map] at h
  exact h

theorem mem_shape_properties {f : Field Hint} (hf : Field.last? name record.fields = some f) :
    (name, type f.hint) ∈ (record.shape type).properties := by
  apply Entries.mem_of_lookup
  rw [(record.reflects_shape type).lookup_properties, last?_typed, hf]
  rfl

theorem exists_of_mem_shape_properties {p : String × Descriptor} (hp : p ∈ (record.shape type).properties) :
    ∃ f, Field.last? p.1 record.fields = some f ∧ p.2 = type f.hint := by
  obtain ⟨g, hg, hhint⟩ := (record.reflects_shape type).exists_of_mem_properties hp
  rw [last?_typed, Option.map_eq_some_iff] at hg
  obtain ⟨f, hf, rfl⟩ := hg
  exact ⟨f, hf, hhint.symm⟩

theorem mem_shape_required :
    name ∈ (record.shape type).required ↔ ∃ f, Field.last? name record.fields = some f ∧ f.required = true := by
  rw [(record.reflects_shape type).mem_required, last?_typed]
  simp only [Option.map_eq_some_iff, exists_exists_and_eq_and, Field.withType]

theorem shape_additional :
    (record.shape type).additional = if record.closed then .forbidden else .unconstrained :=
  (record.reflects_shape type).additional

theorem shape_no_values (d : Descriptor) : (record.shape type).additional ≠ .values d := by
  rw [shape_additional]
  cases record.closed <;> simp

theorem closed_of_shape_forbidden (h : (record.shape type).additional = .forbidden) : record.closed = true := by
  rw [shape_additional] at h
  cases hclosed : record.closed with
  | true => rfl
  | false => simp [hclosed] at h

end Record

/-! ## From the hint to the type -/

namespace Resolves

/-- a value of the record is a value of its object, if that goes for the fields that count -/
theorem accepts_shape {record : Record Hint} {type : Hint → Descriptor}
    (hfields : ∀ f ∈ record.fields, ∀ w : Json, w.nullFree = true → f.hint.Admits r w → (type f.hint).Accepts w)
    (hfree : v.nullFree = true) (hv : (Hint.record record).Admits r v) :
    (Descriptor.object (record.shape type)).Accepts v := by
  cases hv with
  | record hpresent hrequired hclosed =>
    refine .object ?_ ?_ ?_ ?_
    · intro p hp m hm hname
      obtain ⟨f, hf, htype⟩ := Record.exists_of_mem_shape_properties hp
      have hadmits : f.hint.Admits r m.2 := hpresent m hm f (hname ▸ hf)
      rw [htype]
      exact hfields f (Field.mem_of_last? hf) m.2 (Json.nullFree_of_mem_members hfree hm) hadmits
    · intro _ name hname
      obtain ⟨f, hf, hrequired'⟩ := Record.mem_shape_required.1 hname
      exact hrequired name f hf hrequired'
    · intro d hvalues
      exact absurd hvalues (Record.shape_no_values d)
    · intro hforbidden m hm
      rw [Record.has_shape]
      exact hclosed (Record.closed_of_shape_forbidden hforbidden) m hm

/-- a value without null that the hint admits is of the type -/
theorem accepts_of_admits (hd : Resolves r h d) (hfree : v.nullFree = true) (hv : h.Admits r v) : d.Accepts v := by
  induction hd generalizing v with
  | unknown h => exact .unknown v
  | scalar hkind => exact .primitive ((Hint.admits_iff_of_kind? hkind).1 hv)
  | bareArray =>
    cases hv with
    | bareArray items => exact .array fun w _ => .unknown w
  | array hitem ih =>
    cases hv with
    | array hitems => exact .array fun w hw => ih (Json.nullFree_of_mem_items hfree hw) (hitems w hw)
  | bareMap key =>
    cases hv with
    | bareMap key members => refine .object ?_ ?_ ?_ ?_ <;> simp [Shape.empty]
  | map hvalue ih =>
    cases hv with
    | map hvalues =>
      refine .object (by simp) (by simp) (fun type htype m hm _ => ?_) (by simp)
      cases htype
      exact ih (Json.nullFree_of_mem_members hfree hm) (hvalues m hm)
  | onlyNull hne hnull =>
    obtain ⟨m, hm, hmv⟩ := (Hint.admits_iff_mem_members _).1 hv
    rw [Hint.eq_null_of_isNull (hnull m hm)] at hmv
    exact .primitive ((Hint.admits_iff_of_kind? rfl).1 hmv)
  | @single h m d hsingle hm ih =>
    obtain ⟨m', hm', hmv⟩ := (Hint.admits_iff_mem_members _).1 hv
    cases hnull : m'.isNull with
    | true =>
      -- null itself is the one value that is lost beside a single member
      rw [Hint.eq_null_of_isNull hnull] at hmv
      cases hmv
      cases hfree
    | false =>
      have hmem : m' ∈ h.members.filter (!·.isNull) := List.mem_filter.2 ⟨hm', by simp [hnull]⟩
      rw [hsingle, List.mem_singleton] at hmem
      exact ih hfree (hmem ▸ hmv)
  | several type hne hmembers ih =>
    obtain ⟨m, hm, hmv⟩ := (Hint.admits_iff_mem_members _).1 hv
    refine Descriptor.accepts_ofVariants ?_ (List.mem_map_of_mem hm) (ih m hm hfree hmv)
    intro d hd
    obtain ⟨m', hm', rfl⟩ := List.mem_map.1 hd
    exact (hmembers m' hm').normal
  | literal hne hscalar =>
    cases hv with
    | literal hmem huv =>
      rw [distinctValues_eq_collect]
      rcases mem_collect_or_same hmem with hkept | ⟨u', hkept, hsame⟩
      · exact .enum hkept huv
      · have hscalar' : u'.isScalar = true := by
          rcases mem_of_mem_collect hkept with h | h
          · simp at h
          · exact hscalar u' h
        exact .enum hkept (Json.same_trans hscalar' hsame huv)
  | record type hfields ih => exact accepts_shape (fun f hf _ hw hadmits => ih f hf hw hadmits) hfree hv
  | named hget hh ih =>
    cases hv with
    | unregistered v hget' => cases hget.symm.trans hget'
    | registered hget' hv =>
      cases hget.symm.trans hget'
      exact ih hfree hv

/-! ## From the type to the hint -/

/-- a value of the object is a value of the record, if that goes for the properties -/
theorem admits_of_accepts_shape {record : Record Hint} {type : Hint → Descriptor}
    (hfields : ∀ f ∈ record.fields, ∀ w : Json, (type f.hint).hasUnknown = false → (type f.hint).Accepts w →
      f.hint.Admits r w)
    (hknown : (Descriptor.object (record.shape type)).hasUnknown = false)
    (hv : (Descriptor.object (record.shape type)).Accepts v) : (Hint.record record).Admits r v := by
  obtain ⟨hproperties, -⟩ := Descriptor.hasUnknown_object_eq_false.1 hknown
  cases hv with
  | object hpresent hrequired hvalues hforbidden =>
    refine .record ?_ ?_ ?_
    · intro m hm f hf
      have hp : (m.1, type f.hint) ∈ (record.shape type).properties := Record.mem_shape_properties hf
      exact hfields f (Field.mem_of_last? hf) m.2 (hproperties _ hp) (hpresent _ hp m hm rfl)
    · intro name f hf hf'
      have hp : (name, type f.hint) ∈ (record.shape type).properties := Record.mem_shape_properties hf
      exact hrequired (List.ne_nil_of_mem hp) name (Record.mem_shape_required.2 ⟨f, hf, hf'⟩)
    · intro hclosed m hm
      have hadditional : (record.shape type).additional = .forbidden := by
        rw [Record.shape_additional, if_pos hclosed]
      rw [← Record.has_shape]
      exact hforbidden hadditional m hm

/-- a value of a type without unknown parts is admitted by the hint -/
theorem admits_of_accepts (hd : Resolves r h d) (hknown : d.hasUnknown = false) (hv : d.Accepts v) : h.Admits r v := by
  induction hd generalizing v with
  | unknown h => cases hknown
  | scalar hkind =>
    cases hv with
    | primitive hname => exact (Hint.admits_iff_of_kind? hkind).2 hname
  | bareArray => cases hknown
  | array hitem ih =>
    cases hv with
    | array hitems => exact .array fun w hw => ih hknown (hitems w hw)
  | bareMap key =>
    cases hv with
    | object => exact .bareMap key _
  | map hvalue ih =>
    obtain ⟨-, hvalues'⟩ := Descriptor.hasUnknown_object_eq_false.1 hknown
    cases hv with
    | object hpresent hrequired hvalues hforbidden =>
      exact .map fun m hm => ih (hvalues' _ rfl) (hvalues _ rfl m hm rfl)
  | @onlyNull h hne hnull =>
    obtain ⟨m, hm⟩ := List.exists_mem_of_ne_nil h.members hne
    rw [Json.eq_null_of_accepts hv, Hint.admits_iff_mem_members]
    exact ⟨m, hm, Hint.eq_null_of_isNull (hnull m hm) ▸ .null⟩
  | @single h m d hsingle hm ih =>
    have hmem : m ∈ h.members.filter (!·.isNull) := hsingle ▸ List.mem_singleton_self m
    rw [Hint.admits_iff_mem_members]
    exact ⟨m, (List.mem_filter.1 hmem).1, ih hknown hv⟩
  | @several h type hne hmembers ih =>
    have hnormal : ∀ d ∈ h.members.map type, d.Normal := by
      intro d hd
      obtain ⟨m, hm, rfl⟩ := List.mem_map.1 hd
      exact (hmembers m hm).normal
    obtain ⟨d, hd, hdv⟩ := Descriptor.exists_accepts_of_ofVariants hknown hv
    have hdknown : d.hasUnknown = false := Descriptor.hasUnknown_of_ofVariants hnormal hknown hd
    obtain ⟨m, hm, rfl⟩ := List.mem_map.1 hd
    rw [Hint.admits_iff_mem_members]
    exact ⟨m, hm, ih m hm hdknown hdv⟩
  | literal hne hscalar =>
    cases hv with
    | enum hmem huv =>
      rw [distinctValues_eq_collect] at hmem
      rcases mem_of_mem_collect hmem with hmem | hmem
      · simp at hmem
      · exact .literal hmem huv
  | record type hfields ih => exact admits_of_accepts_shape (fun f hf _ hknown hw => ih f hf hknown hw) hknown hv
  | named hget hh ih => exact .registered hget (ih hknown hv)

end Resolves

/-! ## Both directions -/

/-- **Resolution never rejects a value of the type.** For every registry and whatever is under expansion: a value
without null that the hint admits is valid against the schema it resolves to. -/
theorem resolve_valid_of_admits (r : Registry) (seen : List String) (h : Hint) (v : Json) (hfree : v.nullFree = true)
    (hv : h.Admits r v) : Schema.Valid (resolve r seen h).value.toJson v := by
  rw [Schema.valid_toJson_iff]
  exact (resolve_resolves r seen h).accepts_of_admits hfree hv

/-- a chain of integers, a record that refers to itself -/
def chain : Record Hint :=
  ((Record.empty (some "Chain")).withField "value" .integer).withField "next" (.optional (.named "Chain"))

def chains : Registry :=
  Registry.empty.put "Chain" (.record chain)

/-- the chain of these integers -/
def chainOf (first : Int) : List Int → Json
  | [] => .object [("value", .number (.int first))]
  | second :: rest => .object [("value", .number (.int first)), ("next", chainOf second rest)]

theorem required_of_chain {members : List (String × Json)} (hvalue : Entries.has "value" members = true)
    (name : String) (f : Field Hint) (hf : Field.last? name chain.fields = some f) (hrequired : f.required = true) :
    Entries.has name members = true := by
  have hmem : f = ⟨"value", .integer, true⟩ ∨ f = ⟨"next", .optional (.named "Chain"), false⟩ := by
    simpa [chain, Record.withField, Record.empty, Hint.isNullable] using Field.mem_of_last? hf
  rw [← Field.name_of_last? hf]
  rcases hmem with rfl | rfl
  · exact hvalue
  · cases hrequired

theorem admits_chainOf (first : Int) (rest : List Int) : (Hint.named "Chain").Admits chains (chainOf first rest) := by
  induction rest generalizing first with
  | nil =>
    refine .registered rfl (.record ?_ (required_of_chain rfl) nofun)
    intro m hm f hf
    rw [List.mem_singleton.1 hm] at hf ⊢
    cases hf
    exact .integer rfl
  | cons second rest ih =>
    refine .registered rfl (.record ?_ (required_of_chain rfl) nofun)
    intro m hm f hf
    simp only [List.mem_cons, List.not_mem_nil, or_false] at hm
    rcases hm with rfl | rfl
    · cases hf
      exact .integer rfl
    · cases hf
      exact .present (ih second)

theorem resolve_valid_chainOf :
    (chainOf 1 [2]).nullFree = true ∧ (Hint.named "Chain").Admits chains (chainOf 1 [2]) ∧
      Schema.Valid (resolve chains [] (.named "Chain")).value.toJson (chainOf 1 [2]) :=
  ⟨rfl, admits_chainOf 1 [2],
    resolve_valid_of_admits chains [] (.named "Chain") (chainOf 1 [2]) rfl (admits_chainOf 1 [2])⟩

/-- **Resolution loses nothing but what it marks as unknown.** If no part of the type is unknown, every value that is
valid against its schema is admitted by the hint. -/
theorem admits_of_descriptor_valid (r : Registry) (h : Hint) (hknown : (h.descriptor r).hasUnknown = false) (v : Json)
    (hv : Schema.Valid (h.descriptor r).toJson v) : h.Admits r v := by
  rw [Schema.valid_toJson_iff] at hv
  exact (resolve_resolves r [] h).admits_of_accepts hknown hv

/-- a closed pair of numbers -/
def point : Record Hint :=
  (((Record.empty none).withField "x" .number).withField "y" .number).withClosed true

def points : Registry :=
  Registry.empty.put "Point" (.record point)

theorem descriptor_points : (Hint.array (some (.named "Point"))).descriptor points =
    .array (.object ⟨[("x", .primitive .number), ("y", .primitive .number)], ["x", "y"], .forbidden⟩) := by
  have hget : points.get? "Point" = some (.record point) := rfl
  have hpoint : resolve points [] (.named "Point") = resolveFields points ["Point"] (.opening true) point.fields :=
    resolve_named List.not_mem_nil hget
  have htypes : point.fields.map (fun f => f.withType (resolve points ["Point"] f.hint).value) =
      [⟨"x", .primitive .number, true⟩, ⟨"y", .primitive .number, true⟩] := by
    simp [point, Record.withField, Record.withClosed, Record.empty, Field.withType, resolve, Hint.isNullable]
  rw [Hint.descriptor, resolve, Traced.bind_value, hpoint, resolveFields_value, htypes]
  rfl

def onePoint : Json :=
  .array [.object [("x", .number (.int 3)), ("y", .number (.int 4))]]

theorem valid_onePoint : Schema.Valid ((Hint.array (some (.named "Point"))).descriptor points).toJson onePoint := by
  rw [Schema.valid_toJson_iff, descriptor_points]
  refine .array fun v hv => ?_
  rw [List.mem_singleton.1 hv]
  refine .object ?_ (by decide) nofun fun _ => by decide
  intro p hp m hm _
  have htype : p.2 = .primitive .number := by
    simp only [List.mem_cons, List.not_mem_nil, or_false] at hp
    rcases hp with rfl | rfl <;> rfl
  have hnumber : Kind.name .number ∈ m.2.typeNames := by
    simp only [List.mem_cons, List.not_mem_nil, or_false] at hm
    rcases hm with rfl | rfl <;> decide
  rw [htype]
  exact .primitive hnumber

theorem admits_onePoint :
    ((Hint.array (some (.named "Point"))).descriptor points).hasUnknown = false ∧
      Schema.Valid ((Hint.array (some (.named "Point"))).descriptor points).toJson onePoint ∧
      (Hint.array (some (.named "Point"))).Admits points onePoint := by
  have hknown : ((Hint.array (some (.named "Point"))).descriptor points).hasUnknown = false := by
    rw [descriptor_points]
    rfl
  exact ⟨hknown, valid_onePoint, admits_of_descriptor_valid points _ hknown onePoint valid_onePoint⟩

end ToolSchema
