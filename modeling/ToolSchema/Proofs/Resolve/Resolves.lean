/-
What resolution may answer, whatever it is expanding at the moment.

`Resolves r h d` forgets the names under expansion. Its rules give a hint the types that its parts may have, and let
any hint be unknown, as it is where resolution cuts a cycle or finds nothing that a schema can say. `resolve_resolves`
says that every answer follows these rules. What is true of all answers is then shown rule by rule, as for
`Resolves.normal`: every answer is in normal form.
-/
import ToolSchema.Proofs.Descriptor.Build
import ToolSchema.Resolve

namespace ToolSchema

/-- the kind of a hint for scalars -/
def Hint.kind? : Hint → Option Kind
  | .null => some .null
  | .string => some .string
  | .integer => some .integer
  | .number => some .number
  | .boolean => some .boolean
  | _ => none

/-- the fields with the types that their hints have -/
def Record.typed (type : Hint → Descriptor) (record : Record Hint) : List (Field Descriptor) :=
  record.fields.map fun f => f.withType (type f.hint)

/-- the type is a possible answer for the hint -/
inductive Resolves (r : Registry) : Hint → Descriptor → Prop
  | unknown (h : Hint) : Resolves r h .unknown
  | scalar {h : Hint} {kind : Kind} (hkind : h.kind? = some kind) : Resolves r h (.primitive kind)
  | bareArray : Resolves r (.array none) (.array .unknown)
  | array {item : Hint} {d : Descriptor} (hitem : Resolves r item d) : Resolves r (.array (some item)) (.array d)
  | bareMap (key : Option Hint) : Resolves r (.map key none) (.object .empty)
  | map {key : Option Hint} {value : Hint} {d : Descriptor} (hvalue : Resolves r value d) :
    Resolves r (.map key (some value)) (.object ⟨[], [], .values d⟩)
  | onlyNull {h : Hint} (hne : h.members ≠ []) (hnull : ∀ m ∈ h.members, m.isNull = true) :
    Resolves r h (.primitive .null)
  | single {h m : Hint} {d : Descriptor} (hsingle : h.members.filter (!·.isNull) = [m]) (hm : Resolves r m d) :
    Resolves r h d
  | several {h : Hint} (type : Hint → Descriptor) (hne : h.members ≠ [])
    (hmembers : ∀ m ∈ h.members, Resolves r m (type m)) : Resolves r h (.ofVariants (h.members.map type))
  | literal {values : List Json} (hne : values ≠ []) (hscalar : ∀ v ∈ values, v.isScalar = true) :
    Resolves r (.literal values) (.enum (distinctValues [] values))
  | record {record : Record Hint} (type : Hint → Descriptor)
    (hfields : ∀ f ∈ record.fields, Resolves r f.hint (type f.hint)) :
    Resolves r (.record record) (.object ((Shape.opening record.closed).declareAll (record.typed type)))
  | named {name : String} {h : Hint} {d : Descriptor} (hget : r.get? name = some h) (hh : Resolves r h d) :
    Resolves r (.named name) d

variable {r : Registry} {seen : List String}

/-! ## Answers follow the rules -/

theorem resolveAll_value (hints : List Hint) :
    (resolveAll r seen hints).value = hints.map fun h => (resolve r seen h).value := by
  induction hints with
  | nil =>
    rw [resolveAll]
    rfl
  | cons h rest ih =>
    rw [resolveAll]
    simp only [Traced.bind_value, Traced.pure_value, ih, List.map_cons]

/-- a union of which several members are other than null -/
theorem resolveUnion_value {hints : List Hint} (hseveral : 2 ≤ (hints.filter (!·.isNull)).length) :
    (resolveUnion r seen hints).value = Descriptor.ofVariants (hints.map fun h => (resolve r seen h).value) := by
  rw [resolveUnion]
  split
  · next hfilter => simp [hfilter] at hseveral
  · next hfilter => simp [hfilter] at hseveral
  · rw [Traced.bind_value, Traced.pure_value, resolveAll_value]

/-- the properties of an object are declared in the order of the fields; reports do not matter to the answer -/
theorem resolveFields_value (shape : Shape Descriptor) (fields : List (Field Hint)) :
    (resolveFields r seen shape fields).value =
      .object (shape.declareAll (fields.map fun f => f.withType (resolve r seen f.hint).value)) := by
  induction fields generalizing shape with
  | nil =>
    rw [resolveFields]
    rfl
  | cons f rest ih =>
    rw [resolveFields, List.map_cons, Shape.declareAll_cons, Traced.bind_value]
    split
    · rw [Traced.bind_value, ih]
      rfl
    · rw [ih]
      rfl

/-- a registered name that is not under expansion is expanded, a record of its own at once -/
theorem resolve_named {name : String} {h : Hint} (hseen : name ∉ seen) (hget : r.get? name = some h) :
    resolve r seen (.named name) =
      match h.recordOf? name with
      | some record => resolveFields r (name :: seen) (.opening record.closed) record.fields
      | none => resolve r (name :: seen) h := by
  rw [resolve, dif_neg hseen]
  split
  · next hnone => cases hget.symm.trans hnone
  · next hint hsome =>
    cases hget.symm.trans hsome
    rfl

theorem resolve_named_of_unregistered {name : String} (hseen : name ∉ seen) (hget : r.get? name = none) :
    resolve r seen (.named name) = do
      Traced.note (.unresolvedReference name)
      return .unknown := by
  rw [resolve, dif_neg hseen]
  split
  · rfl
  · next hint hsome => cases hget.symm.trans hsome

theorem resolve_named_of_mem {name : String} (hseen : name ∈ seen) : resolve r seen (.named name) = cut name := by
  rw [resolve, dif_pos hseen]

/-- a record is gone into, unless its own name is under expansion -/
theorem resolve_record {record : Record Hint} (hopen : ∀ own, record.name = some own → own ∉ seen) :
    resolve r seen (.record record) =
      resolveFields r (record.name.toList ++ seen) (.opening record.closed) record.fields := by
  obtain ⟨own, fields, closed⟩ := record
  cases own with
  | none =>
    rw [resolve]
    rfl
  | some own =>
    rw [resolve, if_neg (hopen own rfl)]
    rfl

theorem resolve_record_of_mem {record : Record Hint} {own : String} (hname : record.name = some own)
    (hseen : own ∈ seen) : resolve r seen (.record record) = cut own := by
  obtain ⟨_, fields, closed⟩ := record
  cases hname
  rw [resolve, if_pos hseen]

theorem Record.open_or_seen (record : Record Hint) (seen : List String) :
    (∀ own, record.name = some own → own ∉ seen) ∨ ∃ own, record.name = some own ∧ own ∈ seen := by
  by_cases hcut : ∃ own, record.name = some own ∧ own ∈ seen
  · exact .inr hcut
  · exact .inl fun own hname hseen => hcut ⟨own, hname, hseen⟩

/-- whether there is a type for the keys or not, they have to be strings -/
theorem resolve_map (key : Option Hint) (value : Hint) :
    resolve r seen (.map key (some value)) =
      if key.all Hint.isStringKey then do
        let d ← resolve r seen value
        return .object ⟨[], [], .values d⟩
      else notAMapping := by
  cases key with
  | none =>
    rw [resolve, Option.all_none]
    rfl
  | some key => rw [resolve, Option.all_some]

theorem Hint.eq_null_of_isNull {h : Hint} (hnull : h.isNull = true) : h = .null := by
  cases h with
  | null => rfl
  | _ => cases hnull

theorem Hint.eq_record_of_recordOf? {name : String} {h : Hint} {record : Record Hint}
    (hrecord : h.recordOf? name = some record) : h = .record record := by
  cases h with
  | record record' =>
    simp only [Hint.recordOf?, Option.ite_none_right_eq_some, Option.some.injEq] at hrecord
    rw [hrecord.2]
  | _ => cases hrecord

/-- a record behind a reference has the name of the reference, if it has any -/
theorem Hint.name_of_recordOf? {name own : String} {record record' : Record Hint}
    (hrecord : (Hint.record record).recordOf? name = some record') (hown : record.name = some own) : own = name := by
  simp only [Hint.recordOf?, hown, Option.all_some, Option.ite_none_right_eq_some, beq_iff_eq] at hrecord
  exact hrecord.1

namespace Resolves

theorem of_resolveFields (record : Record Hint)
    (h : ∀ f ∈ record.fields, Resolves r f.hint (resolve r seen f.hint).value) :
    Resolves r (.record record) (resolveFields r seen (.opening record.closed) record.fields).value := by
  rw [resolveFields_value]
  exact .record (fun h => (resolve r seen h).value) h

theorem of_resolveUnion {h : Hint} (hmembers : ∀ m ∈ h.members, Resolves r m (resolve r seen m).value) :
    Resolves r h (resolveUnion r seen h.members).value := by
  rw [resolveUnion]
  split
  · next hfilter =>
    split
    · exact .unknown h
    · next hne =>
      refine .onlyNull (by simpa using hne) fun m hm => ?_
      simpa using List.filter_eq_nil_iff.1 hfilter m hm
  · next member hfilter =>
    have hmem : member ∈ h.members.filter (!·.isNull) := hfilter ▸ List.mem_singleton_self member
    exact .single hfilter (hmembers member (List.mem_filter.1 hmem).1)
  · next first second rest hfilter =>
    have hne : h.members ≠ [] := by
      intro hnil
      rw [hnil] at hfilter
      cases hfilter
    simp only [Traced.bind_value, Traced.pure_value, resolveAll_value]
    exact .several (fun h => (resolve r seen h).value) hne hmembers

theorem of_resolveLiteral (values : List Json) : Resolves r (.literal values) (resolveLiteral values).value := by
  unfold resolveLiteral
  split
  · exact .unknown _
  · next hne =>
    split
    · exact .unknown _
    · next hfind =>
      refine .literal (by simpa using hne) fun v hv => ?_
      simpa using List.find?_eq_none.1 hfind v hv

end Resolves

/-- **Every answer follows the rules**, for all names that may be under expansion. The expansion of a registered name
goes on with one fresh name less, any other step with a smaller hint. -/
theorem resolve_resolves (r : Registry) (seen : List String) (h : Hint) : Resolves r h (resolve r seen h).value := by
  cases h with
  | array item =>
    cases item with
    | none => simpa only [resolve] using .bareArray
    | some item =>
      simp only [resolve, Traced.bind_value, Traced.pure_value]
      exact .array (resolve_resolves r seen item)
  | map key value =>
    cases value with
    | none =>
      rw [resolve]
      split
      · exact .bareMap key
      · exact .unknown _
    | some value =>
      have hvalue := resolve_resolves r seen value
      rw [resolve_map]
      split
      · exact .map hvalue
      · exact .unknown _
  | optional inner =>
    rw [resolve]
    exact .of_resolveUnion fun m _hm => resolve_resolves r seen m
  | union hints =>
    rw [resolve]
    exact .of_resolveUnion fun m _hm => resolve_resolves r seen m
  | literal values =>
    rw [resolve]
    exact .of_resolveLiteral values
  | record record =>
    rcases record.open_or_seen seen with hopen | ⟨own, hname, hseen⟩
    · rw [resolve_record hopen]
      exact .of_resolveFields record fun f _hf => resolve_resolves r (record.name.toList ++ seen) f.hint
    · rw [resolve_record_of_mem hname hseen]
      exact .unknown _
  | named name =>
    by_cases hseen : name ∈ seen
    · rw [resolve_named_of_mem hseen]
      exact .unknown _
    · cases hget : r.get? name with
      | none =>
        rw [resolve_named_of_unregistered hseen hget]
        exact .unknown _
      | some hint =>
        have _hless : fresh r.names (name :: seen) < fresh r.names seen :=
          fresh_cons_lt (Registry.mem_names_of_get? hget) hseen
        rw [resolve_named hseen hget]
        cases hrecord : hint.recordOf? name with
        | none => exact .named hget (resolve_resolves r (name :: seen) hint)
        | some record =>
          cases Hint.eq_record_of_recordOf? hrecord
          exact .named hget (.of_resolveFields record fun f _hf => resolve_resolves r (name :: seen) f.hint)
  | unsupported label =>
    rw [resolve]
    exact .unknown _
  | any =>
    rw [resolve]
    exact .unknown _
  | _ =>
    simp only [resolve, Traced.pure_value]
    exact .scalar rfl
termination_by (fresh r.names seen, h.weight, 0)
decreasing_by
  · exact Measure.smaller (Hint.weight_item_lt item)
  · exact Measure.smaller (Hint.weight_value_lt key value)
  · exact Measure.smaller (Hint.weight_lt_of_mem_optional _hm)
  · exact Measure.smaller (Hint.weight_lt_of_mem_union _hm)
  · exact Measure.deeper (fresh_append_le _ _ _) (Hint.weight_field_lt _hf)
  · exact Measure.fresher (by assumption)
  · exact Measure.fresher (by assumption)

/-! ## Normal form -/

namespace Resolves

theorem normal {h : Hint} {d : Descriptor} (hd : Resolves r h d) : d.Normal := by
  induction hd with
  | unknown h => exact .unknown
  | scalar hkind => exact .primitive _
  | bareArray => exact .array .unknown
  | array hitem ih => exact .array ih
  | bareMap key => exact @Descriptor.normal_object false [] (by simp)
  | map hvalue ih =>
    refine .object ⟨List.nodup_nil, List.nodup_nil, by simp, by simp⟩ (by simp) fun type htype => ?_
    cases htype
    exact ih
  | onlyNull hne hnull => exact .primitive .null
  | single hsingle hm ih => exact ih
  | several type hne hmembers ih =>
    refine Descriptor.normal_ofVariants (by simpa using hne) fun d hd => ?_
    obtain ⟨m, hm, rfl⟩ := List.mem_map.1 hd
    exact ih m hm
  | literal hne hscalar =>
    rw [distinctValues_eq_collect]
    refine .enum (collect_ne_nil hne) (fun v hv => ?_) (pairwise_collect List.Pairwise.nil)
    rcases mem_of_mem_collect hv with hv | hv
    · simp at hv
    · exact hscalar v hv
  | record type hfields ih =>
    apply Descriptor.normal_object
    intro f hf
    obtain ⟨g, hg, rfl⟩ := List.mem_map.1 hf
    exact ih g hg
  | named hget hh ih => exact ih

end Resolves

end ToolSchema
