/-
Records in which a field is declared more than once.

Fields are declared to an object one after another, and a name may come again: required after it was optional or the
other way around, several times, with other names in between. The properties keep the place of the first declaration of
their name, the list of required names that of the last, and both follow the last declaration in what they say.
- `required_declare`: one declaration moves its name to the end of the required ones, or takes it out.
- `keys_declareAll`, `required_declareAll`: a run of declarations.
- `resolve_opened_record`: every record that resolution goes into, whether it stands in the hint itself or behind a
  name, is read by the last declarations (`Record.ByLast`).
-/
import Mathlib.Data.List.Induction
import ToolSchema.Proofs.Resolve.Meaning
import ToolSchema.Proofs.Writes

namespace ToolSchema

/-! ## Objects -/

namespace Shape

variable {closed : Bool} {fields : List (Field Descriptor)} {shape : Shape Descriptor}

/-- declared properties are written to the map one by one -/
theorem properties_declareAll (shape : Shape Descriptor) (fields : List (Field Descriptor)) :
    (shape.declareAll fields).properties =
      Entries.putAll shape.properties (fields.map fun f => (f.name, f.hint)) := by
  induction fields generalizing shape with
  | nil => rfl
  | cons f rest ih =>
    rw [declareAll_cons, ih, List.map_cons, Entries.putAll_cons]
    rfl

/-- **Properties stand in the order of first declarations.** -/
theorem keys_declareAll (closed : Bool) (fields : List (Field Descriptor)) :
    Entries.keys ((opening closed).declareAll fields).properties = (fields.map Field.name).eraseDups := by
  have hempty : (Entries.keys (opening closed).properties).Nodup := List.nodup_nil
  rw [properties_declareAll, Entries.keys_putAll _ hempty, List.map_map]
  rfl

/-- A declaration takes its name out of the required ones, and puts it at their end if it says so. -/
theorem required_declare (h : Reflects closed fields shape) (f : Field Descriptor) :
    (shape.declare f.name f.hint f.required).required =
      shape.required.filter (· != f.name) ++ if f.required then [f.name] else [] := by
  have hbefore : (if shape.declares f.name then shape.required.filter (· != f.name) else shape.required) =
      shape.required.filter (· != f.name) := by
    split
    · rfl
    · next hdeclares =>
      refine (List.filter_eq_self.2 fun name hname => ?_).symm
      rw [bne_iff_ne]
      rintro rfl
      exact hdeclares (h.declares_of_mem_required hname)
  rw [declare, hbefore]
  cases f.required with
  | true => rfl
  | false => exact (List.append_nil _).symm

/-- **Required names stand in the order of last declarations.** -/
theorem required_declareAll (closed : Bool) (fields : List (Field Descriptor)) :
    ((opening closed).declareAll fields).required = ((Field.lasts fields).filter Field.required).map Field.name := by
  induction fields using List.reverseRecOn with
  | nil => rfl
  | append_singleton fields f ih =>
    have hsnoc : (opening closed).declareAll (fields ++ [f]) =
        ((opening closed).declareAll fields).declare f.name f.hint f.required := List.foldl_append
    have hothers : (((Field.lasts fields).filter (·.name != f.name)).filter Field.required).map Field.name =
        (((Field.lasts fields).filter Field.required).map Field.name).filter (· != f.name) := by
      rw [List.filter_comm, List.filter_map]
      rfl
    rw [hsnoc, required_declare (reflects_declareAll closed fields), ih, Field.lasts_snoc, List.filter_append,
      List.map_append, hothers]
    cases hrequired : f.required <;> simp [hrequired]

end Shape

/-! ## Records -/

/-- The object says what the last declarations say, each name's type as given. Its properties stand in the order of
first declarations, its required names in that of last ones, and no others are let in just if the record is closed. -/
structure Record.ByLast (type : Hint → Descriptor) (record : Record Hint) (shape : Shape Descriptor) : Prop where
  keys : Entries.keys shape.properties = (record.fields.map Field.name).eraseDups
  lookup_properties : ∀ name, shape.properties.lookup name =
    (Field.last? name record.fields).map fun f => type f.hint
  required : shape.required = ((Field.lasts record.fields).filter Field.required).map Field.name
  mem_required : ∀ name, name ∈ shape.required ↔ ∃ f, Field.last? name record.fields = some f ∧ f.required = true
  required_nodup : shape.required.Nodup
  forbidden_iff : shape.additional = .forbidden ↔ record.closed = true

theorem Record.byLast_shape (type : Hint → Descriptor) (record : Record Hint) :
    record.ByLast type (record.shape type) where
  keys := by
    rw [shape, Shape.keys_declareAll, typed, List.map_map]
    rfl
  lookup_properties name := by
    rw [(record.reflects_shape type).lookup_properties, last?_typed, Option.map_map]
    rfl
  required := by
    rw [shape, Shape.required_declareAll, typed, Field.lasts_map (fun f => type f.hint), List.filter_map, List.map_map]
    rfl
  mem_required _ := mem_shape_required
  required_nodup := (record.reflects_shape type).required_nodup
  forbidden_iff := by
    rw [shape_additional]
    cases record.closed <;> simp

/-! ## Resolution -/

/-- Resolution of the hint goes into the record, where the names of the second list are under expansion. A record
stands for itself, unless its own name is under expansion. A name stands for the hint registered under it, and shares
the expansion with a record of the same name or of none. -/
inductive Opens (r : Registry) (record : Record Hint) : List String → Hint → List String → Prop
  | record {seen : List String} (hopen : ∀ own, record.name = some own → own ∉ seen) :
    Opens r record seen (.record record) (record.name.toList ++ seen)
  | registered {seen : List String} {name : String} (hseen : name ∉ seen) (hget : r.get? name = some (.record record))
    (hown : ∀ own, record.name = some own → own = name) : Opens r record seen (.named name) (name :: seen)
  | reference {seen inside : List String} {name : String} {hint : Hint} (hseen : name ∉ seen)
    (hget : r.get? name = some hint) (hother : hint.recordOf? name = none)
    (hopens : Opens r record (name :: seen) hint inside) : Opens r record seen (.named name) inside

variable {r : Registry} {record : Record Hint} {seen inside : List String} {h : Hint}

theorem Hint.recordOf?_record {name : String} (hown : ∀ own, record.name = some own → own = name) :
    (Hint.record record).recordOf? name = some record := by
  refine if_pos ?_
  rw [Option.all_eq_true]
  exact fun own hname => beq_iff_eq.2 (hown own hname)

/-- the object of a record that is gone into -/
theorem resolve_value_of_opens (hopens : Opens r record seen h inside) :
    (resolve r seen h).value = .object (record.shape fun hint => (resolve r inside hint).value) := by
  induction hopens with
  | @record seen hopen =>
    rw [resolve_record hopen]
    exact resolveFields_value _ _
  | registered hseen hget hown =>
    rw [resolve_named hseen hget, Hint.recordOf?_record hown]
    exact resolveFields_value _ _
  | reference hseen hget hother _ ih =>
    rw [resolve_named hseen hget, hother]
    exact ih

/-- **Repeated fields are read by the last declaration.** Every record that resolution goes into becomes an object. Its
properties are the different names of fields in the order of first declarations, each with the type of its last one,
resolved with the same names under expansion as all others. Required are just the names whose last declarations say so,
in the order of these and without repeats, and other properties are forbidden just if the record is closed. -/
theorem resolve_opened_record (hopens : Opens r record seen h inside) : ∃ shape,
    (resolve r seen h).value = .object shape ∧ record.ByLast (fun hint => (resolve r inside hint).value) shape :=
  ⟨_, resolve_value_of_opens hopens, record.byLast_shape _⟩

/-- a record in which names come again, one of them three times -/
def redeclared : Record Hint :=
  ⟨some "Point", [⟨"x", .string, true⟩, ⟨"y", .integer, false⟩, ⟨"z", .named "Point", true⟩, ⟨"x", .integer, false⟩,
    ⟨"y", .number, true⟩, ⟨"x", .boolean, true⟩], true⟩

/-- it is registered under a name, through which it refers to itself -/
theorem resolve_redeclared :
    Opens ⟨[("Point", .record redeclared)]⟩ redeclared [] (.named "Point") ["Point"] ∧
    ∃ shape, (resolve ⟨[("Point", .record redeclared)]⟩ [] (.named "Point")).value = .object shape ∧
      Entries.keys shape.properties = ["x", "y", "z"] ∧ shape.required = ["z", "y", "x"] ∧
      shape.properties.lookup "x" = some (.primitive .boolean) ∧
      shape.properties.lookup "y" = some (.primitive .number) ∧
      shape.properties.lookup "z" = some .unknown ∧ shape.additional = .forbidden := by
  have hopens : Opens ⟨[("Point", .record redeclared)]⟩ redeclared [] (.named "Point") ["Point"] :=
    .registered (by decide) rfl fun _ hown => (Option.some.inj hown).symm
  obtain ⟨shape, hvalue, hby⟩ := resolve_opened_record hopens
  refine ⟨hopens, shape, hvalue, hby.keys.trans (by decide), hby.required.trans (by decide), ?_, ?_, ?_,
    hby.forbidden_iff.2 rfl⟩
  · rw [hby.lookup_properties]
    simp [redeclared, Field.last?, resolve]
  · rw [hby.lookup_properties]
    simp [redeclared, Field.last?, resolve]
  · rw [hby.lookup_properties]
    simp [redeclared, Field.last?, resolve, cut]

end ToolSchema
