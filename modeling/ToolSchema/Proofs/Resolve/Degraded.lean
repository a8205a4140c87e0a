/-
What resolution gives up, it reports.

Where no schema can say what a hint says, resolution puts unknown in its place. It does so at a cut, behind a name that
is not registered, for keys that are not strings, and for unions and literals without sense; the hints that ask for
anything, any value and a list without element type, are unknown of themselves.

`Traced.Degrades` says that a result comes with a report of the first sort, and `Traced.Candid` that it does if it is
unknown in some part. Reports of parts are reports of the whole (`degrades_resolveAll`, `degrades_resolveFields`), and
what is unknown in the whole is so in one of its parts: a result is candid if those of its parts are.
- `candid_resolve`: if resolution meets no hint that asks for anything, its result is candid.
- `hasUnknown_eq_false_of_quiet`: where hint and registry ask for nothing so wide, what resolves without a diagnostic
  is known in every part.
-/
import Mathlib
import ToolSchema.Proofs.Hint.Replace
import ToolSchema.Proofs.Resolve.Guarded

namespace ToolSchema

/-- the report that a type is given up for unknown -/
def Diagnostic.isDegradation : Diagnostic → Bool
  | unresolvedReference _ | noSchemaEquivalent _ | recursionCut _ => true
  | keysNotStrings | emptyUnion | emptyLiteral | literalNotScalar _ => true
  | _ => false

namespace Traced

variable {α β : Type} {x : Traced α} {f : α → Traced β}

/-- it is reported on the way that a type is given up -/
def Degrades (x : Traced α) : Prop :=
  ∃ d ∈ x.notes, d.isDegradation = true

theorem Degrades.bind (h : x.Degrades) (f : α → Traced β) : (x >>= f).Degrades := by
  obtain ⟨d, hd, hdegradation⟩ := h
  exact ⟨d, List.mem_append_left _ hd, hdegradation⟩

theorem Degrades.of_bind (h : (f x.value).Degrades) : (x >>= f).Degrades := by
  obtain ⟨d, hd, hdegradation⟩ := h
  exact ⟨d, List.mem_append_right _ hd, hdegradation⟩

/-- what is unknown in some part is reported -/
def Candid (x : Traced Descriptor) : Prop :=
  x.value.hasUnknown = true → x.Degrades

theorem candid_pure {d : Descriptor} (h : d.hasUnknown = false) : (pure d : Traced Descriptor).Candid := by
  intro hunknown
  rw [pure_value, h] at hunknown
  cases hunknown

theorem candid_report {d : Diagnostic} (h : d.isDegradation = true) (f : Unit → Traced Descriptor) :
    (note d >>= f).Candid :=
  fun _ => Degrades.bind ⟨d, List.mem_singleton_self d, h⟩ f

/-- a type around another one is unknown where that is -/
theorem Candid.around {x : Traced Descriptor} (hx : x.Candid) {f : Descriptor → Descriptor}
    (hf : ∀ d, (f d).hasUnknown = d.hasUnknown) : (x >>= fun d => pure (f d)).Candid := by
  intro hunknown
  rw [bind_value, pure_value, hf] at hunknown
  exact (hx hunknown).bind _

end Traced

open Traced

/-! ## Hints that ask for anything -/

/-- any value, or a list of any values -/
def Hint.asksForAny : Hint → Bool
  | .any => true
  | .array none => true
  | _ => false

/-- no part of the hint asks for anything; what its names stand for is not looked into -/
def Hint.Definite (h : Hint) : Prop :=
  ∀ part, Meets .empty part h → part.asksForAny = false

variable {r : Registry} {seen : List String}

/-- what a hint meets is a part of it, or of a registered hint -/
theorem Meets.part_or_registered {part h : Hint} (hmeets : Meets r part h) :
    Meets .empty part h ∨ ∃ name hint, r.get? name = some hint ∧ Meets .empty part hint := by
  induction hmeets with
  | self => exact .inl .self
  | item _ ih => exact ih.imp_left .item
  | key _ ih => exact ih.imp_left .key
  | value _ ih => exact ih.imp_left .value
  | inner _ ih => exact ih.imp_left .inner
  | member hm _ ih => exact ih.imp_left (.member hm)
  | field hf _ ih => exact ih.imp_left (.field hf)
  | reference hget _ ih =>
    refine .inr ?_
    rcases ih with hpart | hregistered
    · exact ⟨_, _, hget, hpart⟩
    · exact hregistered

/-! ## Reports of parts -/

theorem degrades_resolveAll {hints : List Hint} (h : ∃ hint ∈ hints, (resolve r seen hint).Degrades) :
    (resolveAll r seen hints).Degrades := by
  obtain ⟨hint, hmem, hdegrades⟩ := h
  induction hints with
  | nil => cases hmem
  | cons first rest ih =>
    rw [resolveAll]
    rcases List.mem_cons.1 hmem with rfl | hmem
    · exact hdegrades.bind _
    · refine Degrades.of_bind ?_
      exact (ih hmem).bind _

theorem degrades_resolveFields {fields : List (Field Hint)} (shape : Shape Descriptor)
    (h : ∃ f ∈ fields, (resolve r seen f.hint).Degrades) : (resolveFields r seen shape fields).Degrades := by
  obtain ⟨f, hmem, hdegrades⟩ := h
  induction fields generalizing shape with
  | nil => cases hmem
  | cons first rest ih =>
    rw [resolveFields]
    rcases List.mem_cons.1 hmem with rfl | hmem
    · exact hdegrades.bind _
    · refine Degrades.of_bind ?_
      -- a repeated field is reported in between
      split
      · exact (ih _ hmem).of_bind
      · exact ih _ hmem

/-! ## Unknown parts come from parts -/

theorem candid_resolveLiteral (values : List Json) : (resolveLiteral values).Candid := by
  unfold resolveLiteral
  split
  · exact candid_report rfl _
  · split
    · exact candid_report rfl _
    · exact candid_pure rfl

theorem candid_resolveUnion {members : List Hint} (h : ∀ m ∈ members, (resolve r seen m).Candid) :
    (resolveUnion r seen members).Candid := by
  rw [resolveUnion]
  split
  · split
    · exact candid_report rfl _
    · exact candid_pure rfl
  · next member hfilter =>
    have hmem : member ∈ members.filter (!·.isNull) := hfilter ▸ List.mem_singleton_self member
    exact h member (List.mem_filter.1 hmem).1
  · intro hunknown
    rw [Traced.bind_value, Traced.pure_value, resolveAll_value] at hunknown
    obtain ⟨d, hd, hdunknown⟩ := Descriptor.exists_hasUnknown_of_ofVariants hunknown
    obtain ⟨m, hm, rfl⟩ := List.mem_map.1 hd
    exact (degrades_resolveAll ⟨m, hm, h m hm hdunknown⟩).bind _

theorem candid_resolveFields {fields : List (Field Hint)} {closed : Bool}
    (h : ∀ f ∈ fields, (resolve r seen f.hint).Candid) : (resolveFields r seen (.opening closed) fields).Candid := by
  intro hunknown
  rw [resolveFields_value] at hunknown
  obtain ⟨declared, hdeclared, hdunknown⟩ := Descriptor.exists_hasUnknown_of_declareAll hunknown
  obtain ⟨f, hf, rfl⟩ := List.mem_map.1 hdeclared
  exact degrades_resolveFields _ ⟨f, hf, h f hf hdunknown⟩

/-! ## Hints -/

theorem candid_resolve_map (key : Option Hint) {value : Option Hint}
    (h : ∀ v, value = some v → (resolve r seen v).Candid) : (resolve r seen (.map key value)).Candid := by
  cases value with
  | none =>
    rw [resolve]
    split
    · exact candid_pure rfl
    · exact candid_report rfl _
  | some value =>
    rw [resolve_map]
    split
    · exact (h value rfl).around fun _ => rfl
    · exact candid_report rfl _

theorem candid_resolve_record {record : Record Hint}
    (h : ∀ f ∈ record.fields, (resolve r (record.name.toList ++ seen) f.hint).Candid) :
    (resolve r seen (.record record)).Candid := by
  rcases record.open_or_seen seen with hopen | ⟨own, hname, hseen⟩
  · rw [resolve_record hopen]
    exact candid_resolveFields h
  · rw [resolve_record_of_mem hname hseen]
    exact candid_report rfl _

theorem candid_resolve_named {name : String}
    (hhint : ∀ hint, name ∉ seen → r.get? name = some hint → (resolve r (name :: seen) hint).Candid)
    (hrecord : ∀ record, name ∉ seen → r.get? name = some (.record record) →
      ∀ f ∈ record.fields, (resolve r (name :: seen) f.hint).Candid) :
    (resolve r seen (.named name)).Candid := by
  by_cases hseen : name ∈ seen
  · rw [resolve_named_of_mem hseen]
    exact candid_report rfl _
  · cases hget : r.get? name with
    | none =>
      rw [resolve_named_of_unregistered hseen hget]
      exact candid_report rfl _
    | some hint =>
      rw [resolve_named hseen hget]
      cases hown : hint.recordOf? name with
      | none => exact hhint hint hseen hget
      | some record =>
        rw [Hint.eq_record_of_recordOf? hown] at hget
        exact candid_resolveFields (hrecord record hseen hget)

/-- **What is given up is reported.** If no hint that resolution may come to asks for anything, a type that is unknown
in some part comes with the report of it, whatever is under expansion. -/
theorem candid_resolve (r : Registry) (seen : List String) (h : Hint)
    (hdefinite : ∀ part, Meets r part h → part.asksForAny = false) : (resolve r seen h).Candid := by
  induction seen, h using Guarded.induct r with
  | step seen h fresher smaller under =>
  have hmember : ∀ {m}, m ∈ h.members → ∀ part, Meets r part m → part.asksForAny = false := by
    intro m hm part hpart
    obtain rfl | hwhole := hpart.of_member hm
    · rfl
    · exact hdefinite part hwhole
  cases h with
  | any => cases hdefinite .any .self
  | array item =>
    cases item with
    | none => cases hdefinite (.array none) .self
    | some item =>
      have hitem := smaller item (Hint.weight_item_lt item) fun part hpart => hdefinite part (.item hpart)
      rw [resolve]
      exact hitem.around fun _ => rfl
  | map key value =>
    refine candid_resolve_map key fun v hv => ?_
    subst hv
    exact smaller v (Hint.weight_value_lt key v) fun part hpart => hdefinite part (.value hpart)
  | optional inner =>
    rw [resolve]
    exact candid_resolveUnion fun m hm => smaller m (Hint.weight_lt_of_mem_optional hm) (hmember hm)
  | union hints =>
    rw [resolve]
    exact candid_resolveUnion fun m hm => smaller m (Hint.weight_lt_of_mem_union hm) (hmember hm)
  | literal values =>
    rw [resolve]
    exact candid_resolveLiteral values
  | record record =>
    refine candid_resolve_record fun f hf => under record.name f.hint (Hint.weight_field_lt hf) ?_
    exact fun part hpart => hdefinite part (.field hf hpart)
  | named name =>
    have hbehind : ∀ hint, r.get? name = some hint → ∀ part, Meets r part hint → part.asksForAny = false :=
      fun hint hget part hpart => hdefinite part (.reference hget hpart)
    refine candid_resolve_named (fun hint hseen hget => ?_) fun record hseen hget f hf => ?_
    · exact fresher name (Registry.mem_names_of_get? hget) hseen hint (hbehind hint hget)
    · refine fresher name (Registry.mem_names_of_get? hget) hseen f.hint fun part hpart => ?_
      exact hbehind (.record record) hget part (.field hf hpart)
  | unsupported label =>
    rw [resolve]
    exact candid_report rfl _
  | _ =>
    rw [resolve]
    exact candid_pure rfl

/-- **Nothing is lost in silence.** Where no part of a hint and of the registered hints asks for anything, a type that
comes without any diagnostic is known in every part. -/
theorem hasUnknown_eq_false_of_quiet (r : Registry) (seen : List String) (h : Hint) (hhint : h.Definite)
    (hregistered : ∀ name hint, r.get? name = some hint → hint.Definite) (hquiet : (resolve r seen h).notes = []) :
    (resolve r seen h).value.hasUnknown = false := by
  have hdefinite : ∀ part, Meets r part h → part.asksForAny = false := by
    intro part hmeets
    rcases hmeets.part_or_registered with hpart | ⟨name, hint, hget, hpart⟩
    · exact hhint part hpart
    · exact hregistered name hint hget part hpart
  rw [← Bool.not_eq_true]
  intro hunknown
  obtain ⟨d, hd, -⟩ := candid_resolve r seen h hdefinite hunknown
  rw [hquiet] at hd
  cases hd

/-- a place with its zones, each one of two -/
def places : Registry :=
  (Registry.empty.put "Zone" (.literal [.string "north", .string "south"])).put "Place"
    (.record ⟨some "Place", [⟨"city", .string, true⟩, ⟨"zones", .array (some (.named "Zone")), false⟩], true⟩)

/-- what is known of some places, by name -/
def placesByName : Hint :=
  .map (some .string) (some (.union [.named "Place", .optional .integer]))

theorem notes_placesByName : (resolve places [] placesByName).notes = [] := by cbv

theorem definite_placesByName : placesByName.Definite := by
  intro part hmeets
  cases hmeets with
  | self => rfl
  | key hkey =>
    cases hkey
    rfl
  | value hvalue =>
    cases hvalue with
    | self => rfl
    | member hm hmember =>
      simp only [List.mem_cons, List.not_mem_nil, or_false] at hm
      rcases hm with rfl | rfl
      · cases hmember with
        | self => rfl
        | reference hget => cases hget
      · cases hmember with
        | self => rfl
        | inner hinner =>
          cases hinner
          rfl

theorem definite_of_get?_places {name : String} {hint : Hint} (hget : places.get? name = some hint) :
    hint.Definite := by
  rw [places, Registry.get?_put, Registry.get?_put] at hget
  intro part hmeets
  split at hget
  · cases hget
    cases hmeets with
    | self => rfl
    | field hf hfield =>
      simp only [List.mem_cons, List.not_mem_nil, or_false] at hf
      rcases hf with rfl | rfl
      · cases hfield
        rfl
      · cases hfield with
        | self => rfl
        | item hitem =>
          cases hitem with
          | self => rfl
          | reference hzone => cases hzone
  · split at hget
    · cases hget
      cases hmeets
      rfl
    · cases hget

/-- a place may be given in full or by a number, and no part of either is unknown -/
theorem hasUnknown_eq_false_of_quiet_placesByName :
    placesByName.Definite ∧ (∀ name hint, places.get? name = some hint → hint.Definite) ∧
      (resolve places [] placesByName).notes = [] ∧ (resolve places [] placesByName).value.hasUnknown = false := by
  have hregistered : ∀ name hint, places.get? name = some hint → hint.Definite := fun _ _ => definite_of_get?_places
  refine ⟨definite_placesByName, hregistered, notes_placesByName, ?_⟩
  exact hasUnknown_eq_false_of_quiet places [] placesByName definite_placesByName hregistered notes_placesByName

end ToolSchema
