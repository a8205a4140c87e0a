/-
References and what they stand for.

Resolution looks at some hints from the outside, without following references: at the key of a mapping; at the members
of a union, to see whether there are several beside null; and at names under expansion, where a record and a reference
of one name count as the same type. `Transparent` says that a reference does not look different there from what it
stands for. Then it makes no difference whether references are followed on the way or replaced beforehand.
- `Abreast`: which names may be under expansion on the one side and not on the other.
- `resolve_subst`: a hint resolves like its replacement, by induction on the depth of the replacement and then on the
  hint. Names are the only step that goes to a lesser depth.
- `descriptor_eq_of_standsFor`: so does a hint on its own.
- `descriptor_ne_of_standsFor`: without any of the conditions it need not.
-/
import ToolSchema.Proofs.Hint.Replace
import ToolSchema.Proofs.Resolve.Members

namespace ToolSchema

/-- the name is registered, with a record that has the same name -/
def Registry.Owns (r : Registry) (name : String) : Prop :=
  ∃ record : Record Hint, record.name = some name ∧ r.get? name = some (.record record)

/-- Wherever a hint that is met is looked at from the outside, references look like what they stand for. -/
structure Transparent (r : Registry) (h : Hint) : Prop where
  /-- a key that is a reference does not stand for strings -/
  keys : ∀ name value, Meets r (.map (some (.named name)) value) h →
    ∀ e, StandsFor r (.named name) e → e.isStringKey = false
  /-- a union has several members beside null, or does not have them, before and after -/
  several : ∀ u, Meets r u h → 2 ≤ u.members.length → ∀ e, StandsFor r u e → (2 ≤ u.choices ↔ 2 ≤ e.choices)
  /-- no reference among members stands for an empty union, and none among several for null beside a single member -/
  members : ∀ u, Meets r u h → 2 ≤ u.members.length → ∀ name, .named name ∈ u.members →
    ∀ e, StandsFor r (.named name) e → e.members ≠ [] ∧ (2 ≤ u.choices → e.choices = 1 → .null ∉ e.members)
  /-- a record and a reference of one name lie inside of each other only if the name belongs to such a record -/
  records : ∀ record name, record.name = some name → Meets r (.record record) h → Meets r (.named name) h →
    Meets r (.named name) (.record record) ∨ Meets r (.record record) (.named name) → r.Owns name

/-- The names under expansion where references are followed, and where they are replaced. A name that is under expansion
on the first side only is not met any more; one that is so on both sides and is met again belongs to a record, which is
cut on both sides. -/
structure Abreast (r : Registry) (seen seen' : List String) (h : Hint) : Prop where
  subset : seen' ⊆ seen
  reference : ∀ name ∈ seen, name ∉ seen' → ¬ Meets r (.named name) h
  record : ∀ name ∈ seen, name ∉ seen' → ∀ record : Record Hint, record.name = some name → ¬ Meets r (.record record) h
  owned : ∀ name ∈ seen', Meets r (.named name) h → r.Owns name

variable {r : Registry} {seen seen' : List String} {h hint part : Hint} {name : String} {depth : Nat}
  {record : Record Hint}

theorem Transparent.of_meets (hh : Transparent r h) (hpart : Meets r part h) : Transparent r part where
  keys name value hkey := hh.keys name value (hkey.trans hpart)
  several u hu := hh.several u (hu.trans hpart)
  members u hu := hh.members u (hu.trans hpart)
  records record name hname hrecord hreference := hh.records record name hname (hrecord.trans hpart)
    (hreference.trans hpart)

namespace Abreast

theorem of_meets (hh : Abreast r seen seen' h) (hpart : Meets r part h) : Abreast r seen seen' part where
  subset := hh.subset
  reference name hseen hseen' hmeets := hh.reference name hseen hseen' (hmeets.trans hpart)
  record name hseen hseen' record hname hmeets := hh.record name hseen hseen' record hname (hmeets.trans hpart)
  owned name hseen' hmeets := hh.owned name hseen' (hmeets.trans hpart)

/-- a name is added on both sides -/
theorem cons (hh : Abreast r seen seen' h) (howned : Meets r (.named name) h → r.Owns name) :
    Abreast r (name :: seen) (name :: seen') h where
  subset := List.cons_subset_cons name hh.subset
  reference m hseen hseen' := by
    rw [List.mem_cons, not_or] at hseen'
    exact hh.reference m ((List.mem_cons.1 hseen).resolve_left hseen'.1) hseen'.2
  record m hseen hseen' := by
    rw [List.mem_cons, not_or] at hseen'
    exact hh.record m ((List.mem_cons.1 hseen).resolve_left hseen'.1) hseen'.2
  owned m hseen' hmeets := by
    rcases List.mem_cons.1 hseen' with rfl | hseen'
    · exact howned hmeets
    · exact hh.owned m hseen' hmeets

/-- a name is added where references are followed, and not met any more -/
theorem cons_left (hh : Abreast r seen seen' h) (hreference : ¬ Meets r (.named name) h)
    (hrecord : ∀ record : Record Hint, record.name = some name → ¬ Meets r (.record record) h) :
    Abreast r (name :: seen) seen' h where
  subset := List.subset_cons_of_subset name hh.subset
  reference m hseen hseen' := by
    rcases List.mem_cons.1 hseen with rfl | hseen
    · exact hreference
    · exact hh.reference m hseen hseen'
  record m hseen hseen' := by
    rcases List.mem_cons.1 hseen with rfl | hseen
    · exact hrecord
    · exact hh.record m hseen hseen'
  owned := hh.owned

theorem nil (h : Hint) : Abreast r [] [] h where
  subset := List.Subset.refl []
  reference _ hseen := absurd hseen List.not_mem_nil
  record _ hseen := absurd hseen List.not_mem_nil
  owned _ hseen := absurd hseen List.not_mem_nil

end Abreast

/-! ## Steps that stay at a depth -/

/-- a hint resolves like its replacement, on these sides -/
def ResolvesLike (r : Registry) (depth : Nat) (h : Hint) : Prop :=
  ∀ seen seen' : List String, Abreast r seen seen' h → Transparent r h → (h.subst (r.unfold depth)).names = [] →
    (resolve r seen h).value = (resolve r seen' (h.subst (r.unfold depth))).value

theorem resolveFields_subst {shape : Shape Descriptor} {fields : List (Field Hint)} {f : String → Hint}
    (hfields : ∀ field ∈ fields, (resolve r seen field.hint).value = (resolve r seen' (field.hint.subst f)).value) :
    (resolveFields r seen shape fields).value = (resolveFields r seen' shape (Hint.fieldsSubst f fields)).value := by
  have hmap : fields.map (fun field => field.withType (resolve r seen field.hint).value) =
      (Hint.fieldsSubst f fields).map fun field => field.withType (resolve r seen' field.hint).value := by
    rw [Hint.fieldsSubst_eq_map, List.map_map]
    apply List.map_congr_left
    intro field hfield
    rw [hfields field hfield]
    rfl
  rw [resolveFields_value, resolveFields_value, hmap]

/-- what makes references transparent in a union is what its members need to be flattened -/
theorem resolveUnion_subst {u : Hint} (htransparent : Transparent r u) (hnames : (u.subst (r.unfold depth)).names = [])
    (hvalue : ∀ m ∈ u.members, (resolve r seen m).value = (resolve r seen' (m.subst (r.unfold depth))).value) :
    (resolveUnion r seen u.members).value = (resolveUnion r seen' (u.subst (r.unfold depth)).members).value := by
  have hstands : StandsFor r u (u.subst (r.unfold depth)) := ⟨depth, rfl, hnames⟩
  rw [Hint.members_subst]
  refine resolveUnion_flatMap (fun m hm => Hint.members_of_mem_members hm) hvalue rfl ?_ ?_
  · intro hlength
    rw [← Hint.members_subst]
    exact htransparent.several u .self hlength _ hstands
  · intro hlength m hm
    by_cases hname : ∃ name, m = .named name
    · obtain ⟨name, rfl⟩ := hname
      have hname : name ∈ u.names := Hint.names_subset_of_mem_members hm (List.mem_singleton_self name)
      exact htransparent.members u .self hlength name hm _ ⟨depth, rfl, Hint.names_unfold_of_mem hnames hname⟩
    · have hm' : (m.subst (r.unfold depth)).members = [m.subst (r.unfold depth)] :=
        Hint.members_subst_of_ne_named (Hint.members_of_mem_members hm) fun name heq => hname ⟨name, heq⟩
      rw [Hint.choices, hm']
      refine ⟨List.cons_ne_nil _ _, fun _ hone hnull => ?_⟩
      rw [← List.mem_singleton.1 hnull] at hone
      cases hone

/-- a replacement keeps what kind of key a hint is, if it is no reference -/
theorem Hint.isStringKey_subst {f : String → Hint} {key : Hint} (hname : ∀ name, key ≠ .named name) :
    (key.subst f).isStringKey = key.isStringKey := by
  cases key with
  | named name => exact absurd rfl (hname name)
  | record record => rfl
  | _ => rfl

theorem isStringKey_subst {key : Hint} {value : Option Hint} (htransparent : Transparent r (.map (some key) value))
    (hnames : (key.subst (r.unfold depth)).names = []) :
    (key.subst (r.unfold depth)).isStringKey = key.isStringKey := by
  by_cases hname : ∃ name, key = .named name
  · obtain ⟨name, rfl⟩ := hname
    exact htransparent.keys name value .self _ ⟨depth, rfl, hnames⟩
  · exact Hint.isStringKey_subst fun name heq => hname ⟨name, heq⟩

/-- a record with replaced fields is gone into as the record itself is -/
theorem resolve_record_subst {f : String → Hint} (hopen : ∀ own, record.name = some own → own ∉ seen) :
    resolve r seen ((Hint.record record).subst f) =
      resolveFields r (record.name.toList ++ seen) (.opening record.closed) (Hint.fieldsSubst f record.fields) := by
  obtain ⟨own, fields, closed⟩ := record
  have hopen' : ∀ n, (⟨own, Hint.fieldsSubst f fields, closed⟩ : Record Hint).name = some n → n ∉ seen := hopen
  rw [Hint.subst, resolve_record hopen']

theorem resolvesLike_map {key value : Option Hint} (h : ∀ v, value = some v → ResolvesLike r depth v) :
    ResolvesLike r depth (.map key value) := by
  intro seen seen' habreast htransparent hnames
  have hkey : (Hint.optionSubst (r.unfold depth) key).all Hint.isStringKey = key.all Hint.isStringKey := by
    cases key with
    | none => rfl
    | some key => exact isStringKey_subst htransparent (Hint.names_subst_of_subset hnames (List.subset_append_left _ _))
  cases value with
  | none => rw [Hint.subst, Hint.optionSubst, resolve, resolve, hkey]
  | some value =>
    have hmeets : Meets r value (.map key (some value)) := .value .self
    have hvalue := h value rfl seen seen' (habreast.of_meets hmeets) (htransparent.of_meets hmeets)
      (Hint.names_subst_of_subset hnames (List.subset_append_right _ _))
    rw [Hint.subst, Hint.optionSubst, resolve_map, resolve_map, hkey]
    split
    · rw [Traced.bind_value, Traced.bind_value, hvalue]
    · rfl

/-- a record that is met is under expansion on both sides or on none -/
theorem resolvesLike_record (h : ∀ f ∈ record.fields, ResolvesLike r depth f.hint) :
    ResolvesLike r depth (.record record) := by
  intro seen seen' habreast htransparent hnames
  have hmeets : ∀ f ∈ record.fields, Meets r f.hint (.record record) := fun f hf => .field hf .self
  rcases record.open_or_seen seen with hopen | ⟨own, hname, hseen⟩
  · have hopen' : ∀ own, record.name = some own → own ∉ seen' :=
      fun own hname hmem => hopen own hname (habreast.subset hmem)
    rw [resolve_record hopen, resolve_record_subst hopen']
    refine resolveFields_subst fun f hf => h f hf _ _ ?_ (htransparent.of_meets (hmeets f hf))
      (Hint.names_subst_of_subset hnames (Hint.names_subset_of_mem_fields hf))
    cases hname : record.name with
    | none => exact habreast.of_meets (hmeets f hf)
    | some own =>
      refine (habreast.of_meets (hmeets f hf)).cons fun hown => ?_
      have hinside := hown.trans (hmeets f hf)
      exact htransparent.records record own hname .self hinside (.inl hinside)
  · have hseen' : own ∈ seen' := by
      by_contra hseen'
      exact habreast.record own hseen hseen' record hname .self
    rw [resolve_record_of_mem hname hseen]
    obtain ⟨_, fields, closed⟩ := record
    cases hname
    rw [Hint.subst, resolve, if_pos hseen']

/-- **Every hint resolves like its replacement if the names do.** -/
theorem resolvesLike_of_named (hnamed : ∀ name, ResolvesLike r depth (.named name)) (h : Hint) :
    ResolvesLike r depth h := by
  induction h using Hint.weight_induct with
  | step h smaller =>
  intro seen seen' habreast htransparent hnames
  have hpart : ∀ part, part.weight < h.weight → Meets r part h → part.names ⊆ h.names →
      (resolve r seen part).value = (resolve r seen' (part.subst (r.unfold depth))).value :=
    fun part hless hmeets hsubset => smaller part hless seen seen' (habreast.of_meets hmeets)
      (htransparent.of_meets hmeets) (Hint.names_subst_of_subset hnames hsubset)
  have hmembers : Hint.weightAll h.members < h.weight → ∀ m ∈ h.members,
      (resolve r seen m).value = (resolve r seen' (m.subst (r.unfold depth))).value := by
    intro hless m hm
    rcases Meets.of_mem_members hm with rfl | hmeets
    · simp only [Hint.subst, resolve]
    · exact hpart m (Nat.lt_trans (Hint.weight_lt_of_mem hm) hless) hmeets (Hint.names_subset_of_mem_members hm)
  cases h with
  | array item =>
    cases item with
    | none => rw [Hint.subst, Hint.optionSubst, resolve, resolve]
    | some item =>
      have hitem := hpart item (Hint.weight_item_lt item) (.item .self) (List.Subset.refl _)
      rw [Hint.subst, Hint.optionSubst, resolve, resolve, Traced.bind_value, Traced.bind_value, hitem]
  | map key value =>
    refine resolvesLike_map (fun v hv => ?_) seen seen' habreast htransparent hnames
    subst hv
    exact smaller v (Hint.weight_value_lt key v)
  | optional inner =>
    rw [Hint.subst, resolve, resolve]
    exact resolveUnion_subst htransparent hnames (hmembers (Hint.weightAll_members_optional inner))
  | union hints =>
    rw [Hint.subst, resolve, resolve]
    exact resolveUnion_subst htransparent hnames (hmembers (Hint.weightAll_members_union hints))
  | record record =>
    have hfields : ∀ f ∈ record.fields, ResolvesLike r depth f.hint :=
      fun f hf => smaller f.hint (Hint.weight_field_lt hf)
    exact resolvesLike_record hfields seen seen' habreast htransparent hnames
  | named name => exact hnamed name seen seen' habreast htransparent hnames
  | _ => simp only [Hint.subst, resolve]

/-! ## Steps to a lesser depth -/

/-- where a name does not belong to a record that has it, no such record is met behind it -/
theorem Transparent.not_meets_record (htransparent : Transparent r (.named name)) (hget : r.get? name = some hint)
    (hnot : hint.recordOf? name = none ∨ ∃ record : Record Hint, hint = .record record ∧ record.name = none)
    (hname : record.name = some name) : ¬ Meets r (.record record) hint := by
  intro hmeets
  have hvia : Meets r (.record record) (.named name) := .reference hget hmeets
  obtain ⟨own, hown, hget'⟩ := htransparent.records record name hname hvia .self (.inr hvia)
  cases hget.symm.trans hget'
  rcases hnot with hnone | ⟨other, heq, hnameless⟩
  · simp [Hint.recordOf?, hown] at hnone
  · cases heq
    rw [hown] at hnameless
    cases hnameless

theorem resolvesLike_named (hacyclic : r.Acyclic) (hlesser : ∀ h : Hint, ResolvesLike r depth h) (name : String) :
    ResolvesLike r (depth + 1) (.named name) := by
  intro seen seen' habreast htransparent hnames
  rw [Hint.subst] at hnames ⊢
  obtain ⟨before, hint, hdepth, hget, hleft⟩ := Registry.exists_get?_of_names_unfold hnames
  cases hdepth
  rw [Registry.unfold_of_get? hget]
  have hmeets : Meets r hint (.named name) := .reference hget .self
  have hreference : ¬ Meets r (.named name) hint := hacyclic name hint hget
  by_cases hseen : name ∈ seen
  · -- a name that is met again belongs to a record, which is under expansion as well
    have hseen' : name ∈ seen' := by
      by_contra hseen'
      exact habreast.reference name hseen hseen' .self
    obtain ⟨⟨own, fields, closed⟩, rfl, hget'⟩ := habreast.owned name hseen' .self
    cases hget.symm.trans hget'
    rw [resolve, dif_pos hseen, Hint.subst, resolve, if_pos hseen']
  · have hseen' : name ∉ seen' := fun hmem => hseen (habreast.subset hmem)
    have hinside : Transparent r hint := htransparent.of_meets hmeets
    have hside : Abreast r seen seen' hint := habreast.of_meets hmeets
    rw [resolve_named hseen hget]
    cases hrecord : hint.recordOf? name with
    | none =>
      refine hlesser hint (name :: seen) seen' (hside.cons_left hreference fun record hname => ?_) hinside hleft
      exact htransparent.not_meets_record hget (.inl hrecord) hname
    | some record =>
      cases Hint.eq_record_of_recordOf? hrecord
      have hfield : ∀ f ∈ record.fields, Meets r f.hint (.record record) := fun f hf => .field hf .self
      have hown : ∀ own, record.name = some own → own = name := fun own => Hint.name_of_recordOf? hrecord
      have hopen : ∀ own, record.name = some own → own ∉ seen' := fun own hname => hown own hname ▸ hseen'
      rw [resolve_record_subst hopen]
      refine resolveFields_subst fun f hf => hlesser f.hint (name :: seen) _ ?_ (hinside.of_meets (hfield f hf))
        (Hint.names_subst_of_subset hleft (Hint.names_subset_of_mem_fields hf))
      have hnotField : ¬ Meets r (.named name) f.hint := fun hmeets => hreference (hmeets.trans (hfield f hf))
      cases hname : record.name with
      | none =>
        refine (hside.of_meets (hfield f hf)).cons_left hnotField fun other hother hmeets => ?_
        exact htransparent.not_meets_record hget (.inr ⟨record, rfl, hname⟩) hother (hmeets.trans (hfield f hf))
      | some own =>
        cases hown own hname
        exact (hside.of_meets (hfield f hf)).cons fun hmeets => absurd hmeets hnotField

theorem resolve_subst (hacyclic : r.Acyclic) (depth : Nat) (h : Hint) : ResolvesLike r depth h := by
  induction depth generalizing h with
  | zero =>
    refine resolvesLike_of_named (fun name _ _ _ _ hnames => ?_) h
    cases hnames
  | succ depth ih => exact resolvesLike_of_named (resolvesLike_named hacyclic ih) h

/-! ## A registry of one name -/

/-- no other name is registered -/
def Registry.single (name : String) (hint : Hint) : Registry :=
  Registry.empty.put name hint

namespace Registry

theorem get?_single (name m : String) (hint : Hint) :
    (single name hint).get? m = if m = name then some hint else none :=
  get?_put name m hint empty

theorem acyclic_single (hnames : hint.names = []) : (single name hint).Acyclic := by
  intro m hint' hget hmeets
  rw [get?_single, Option.ite_none_right_eq_some] at hget
  cases hget.2
  exact hmeets.names_ne_nil hnames

theorem isSome_single (hnames : hint.names = []) (hh : h.names ⊆ [name]) (m : String)
    (hmeets : Meets (single name hint) (.named m) h) : ((single name hint).get? m).isSome := by
  rcases hmeets.cases_names with hm | ⟨own, -, hint', hget, hbehind⟩
  · rw [get?_single, if_pos (List.mem_singleton.1 (hh hm))]
    rfl
  · rw [get?_single, Option.ite_none_right_eq_some] at hget
    cases hget.2
    exact absurd hnames hbehind.names_ne_nil

end Registry

/-- a reference to a union of two, and a third member -/
def scalarOrTruth : Hint :=
  .union [.named "Scalar", .boolean]

theorem meets_scalarOrTruth {u : Hint} (hu : Meets scalars u scalarOrTruth) :
    u ∈ [scalarOrTruth, .named "Scalar", .boolean, .union [.string, .integer], .string, .integer] := by
  cases hu with
  | self => exact List.mem_cons_self
  | member hm hmeets =>
    simp only [List.mem_cons, List.not_mem_nil, or_false] at hm
    rcases hm with rfl | rfl
    · cases hmeets with
      | self => simp
      | reference hget hmeets =>
        cases hget
        cases hmeets with
        | self => simp
        | member hm hmeets =>
          simp only [List.mem_cons, List.not_mem_nil, or_false] at hm
          rcases hm with rfl | rfl
          · cases hmeets
            simp
          · cases hmeets
            simp
    · cases hmeets
      simp

theorem standsFor_scalarOrTruth :
    StandsFor scalars scalarOrTruth (.union [.union [.string, .integer], .boolean]) :=
  ⟨1, rfl, rfl⟩

/-- only the whole and the registered union have several members -/
theorem several_scalarOrTruth {u : Hint} (hu : Meets scalars u scalarOrTruth) (hlength : 2 ≤ u.members.length) :
    u = scalarOrTruth ∨ u = .union [.string, .integer] := by
  have hmem := meets_scalarOrTruth hu
  simp only [List.mem_cons, List.not_mem_nil, or_false] at hmem
  rcases hmem with rfl | rfl | rfl | rfl | rfl | rfl
  · exact .inl rfl
  · exact absurd hlength (by decide)
  · exact absurd hlength (by decide)
  · exact .inr rfl
  · exact absurd hlength (by decide)
  · exact absurd hlength (by decide)

theorem transparent_scalarOrTruth : Transparent scalars scalarOrTruth where
  keys name value hmap := by
    have hmem := meets_scalarOrTruth hmap
    simp [scalarOrTruth] at hmem
  several u hu hlength e he := by
    rcases several_scalarOrTruth hu hlength with rfl | rfl
    · rw [he.unique standsFor_scalarOrTruth]
      decide
    · have hself : StandsFor scalars (.union [.string, .integer]) (.union [.string, .integer]) := ⟨0, rfl, rfl⟩
      rw [he.unique hself]
  members u hu hlength name hname e he := by
    rcases several_scalarOrTruth hu hlength with rfl | rfl
    · have hscalar : StandsFor scalars (.named "Scalar") (.union [.string, .integer]) := ⟨1, rfl, rfl⟩
      have heq : name = "Scalar" := by simpa [scalarOrTruth, Hint.members, Hint.allMembers] using hname
      subst heq
      rw [he.unique hscalar]
      exact ⟨by decide, fun _ hone => absurd hone (by decide)⟩
    · simp [Hint.members, Hint.allMembers] at hname
  records record name hname hrecord := by
    have hmem := meets_scalarOrTruth hrecord
    simp [scalarOrTruth] at hmem

/-! ## Answers -/

/-- **References are transparent.** Take a registry in which no name meets itself again, and a hint all of whose names,
followed through the registry, are registered. Then there is exactly one hint without names that it stands for; and if
references look like what they stand for wherever resolution does not follow them, both have the same type. -/
theorem descriptor_eq_of_standsFor (r : Registry) (h : Hint) (hacyclic : r.Acyclic)
    (hregistered : ∀ name, Meets r (.named name) h → (r.get? name).isSome) (htransparent : Transparent r h) :
    (∃! e, StandsFor r h e) ∧ ∀ e, StandsFor r h e → e.descriptor r = h.descriptor r := by
  obtain ⟨e, he⟩ := exists_standsFor hacyclic hregistered
  refine ⟨⟨e, he, fun e' he' => he'.unique he⟩, fun e he => ?_⟩
  obtain ⟨depth, rfl, hnames⟩ := he
  exact (resolve_subst hacyclic depth h [] [] (.nil h) htransparent hnames).symm

theorem descriptor_eq_of_standsFor_scalarOrTruth :
    scalars.Acyclic ∧ (∀ name, Meets scalars (.named name) scalarOrTruth → (scalars.get? name).isSome) ∧
      Transparent scalars scalarOrTruth ∧
      scalarOrTruth.descriptor scalars = .union [.primitive .string, .primitive .integer, .primitive .boolean] := by
  have hacyclic : scalars.Acyclic := Registry.acyclic_single rfl
  have hregistered : ∀ name, Meets scalars (.named name) scalarOrTruth → (scalars.get? name).isSome :=
    Registry.isSome_single rfl (by decide)
  refine ⟨hacyclic, hregistered, transparent_scalarOrTruth, ?_⟩
  rw [← (descriptor_eq_of_standsFor scalars scalarOrTruth hacyclic hregistered transparent_scalarOrTruth).2 _
    standsFor_scalarOrTruth]
  rw [Hint.descriptor, resolve_value_eq_ofVariants (by decide) fun hone => absurd hone (by decide)]
  simp only [Hint.members, Hint.allMembers, List.cons_append, List.nil_append, List.map_cons, List.map_nil, resolve]
  rfl

/-! ## References that hide something -/

theorem resolve_single (hnot : hint.recordOf? name = none) :
    resolve (.single name hint) [] (.named name) = resolve (.single name hint) [name] hint := by
  have hget : (Registry.single name hint).get? name = some hint := by rw [Registry.get?_single, if_pos rfl]
  rw [resolve_named List.not_mem_nil hget, hnot]

/-- the hint stands for another one that has another type -/
structure Differs (r : Registry) (h e : Hint) : Prop where
  acyclic : r.Acyclic
  registered : ∀ name, Meets r (.named name) h → (r.get? name).isSome
  standsFor : StandsFor r h e
  descriptor_ne : e.descriptor r ≠ h.descriptor r

theorem Differs.of_single {e : Hint} {d d' : Descriptor} (hnames : hint.names = []) (hh : h.names ⊆ [name])
    (hstands : StandsFor (.single name hint) h e) (he : e.descriptor (.single name hint) = d)
    (hd : h.descriptor (.single name hint) = d') (hne : d ≠ d') : Differs (.single name hint) h e where
  acyclic := Registry.acyclic_single hnames
  registered := Registry.isSome_single hnames hh
  standsFor := hstands
  descriptor_ne := by
    rw [he, hd]
    exact hne

/-- beside another member the null of optional text is lost -/
theorem differs_text : Differs (.single "Text" (.optional .string)) (.union [.named "Text", .integer])
    (.union [.optional .string, .integer]) := by
  have htext : (resolve (.single "Text" (.optional .string)) [] (.named "Text")).value = .primitive .string := by
    rw [resolve_single rfl, resolve_value_eq_members, resolveUnion_of_singleton rfl, resolve]
    rfl
  have hreplaced : (Hint.union [.optional .string, .integer]).descriptor (.single "Text" (.optional .string)) =
      .union [.primitive .string, .primitive .null, .primitive .integer] := by
    rw [Hint.descriptor, resolve_value_eq_ofVariants (by decide) fun hone => absurd hone (by decide)]
    simp only [Hint.members, Hint.allMembers, List.cons_append, List.nil_append, List.map_cons, List.map_nil, resolve]
    rfl
  have hfollowed : (Hint.union [.named "Text", .integer]).descriptor (.single "Text" (.optional .string)) =
      .union [.primitive .string, .primitive .integer] := by
    rw [Hint.descriptor, resolve_value_eq_ofVariants (by decide) fun hone => absurd hone (by decide)]
    simp only [Hint.members, Hint.allMembers, List.cons_append, List.nil_append, List.map_cons, List.map_nil, htext]
    simp only [resolve]
    rfl
  exact .of_single rfl (by decide) ⟨1, rfl, rfl⟩ hreplaced hfollowed fun h => by cases h

/-- an alias of null is a member beside another, where null itself would not count -/
theorem differs_nothing : Differs (.single "Nothing" .null) (.union [.named "Nothing", .string])
    (.union [.null, .string]) := by
  have hnothing : (resolve (.single "Nothing" .null) [] (.named "Nothing")).value = .primitive .null := by
    rw [resolve_single rfl, resolve]
    rfl
  have hreplaced : (Hint.union [.null, .string]).descriptor (.single "Nothing" .null) = .primitive .string := by
    rw [Hint.descriptor, resolve_value_eq_members, resolveUnion_of_singleton rfl, resolve]
    rfl
  have hfollowed : (Hint.union [.named "Nothing", .string]).descriptor (.single "Nothing" .null) =
      .union [.primitive .null, .primitive .string] := by
    rw [Hint.descriptor, resolve_value_eq_ofVariants (by decide) fun hone => absurd hone (by decide)]
    simp only [Hint.members, Hint.allMembers, List.cons_append, List.nil_append, List.map_cons, List.map_nil, hnothing]
    simp only [resolve]
    rfl
  exact .of_single rfl (by decide) ⟨1, rfl, rfl⟩ hreplaced hfollowed fun h => by cases h

/-- an alias of text is no key -/
theorem differs_key : Differs (.single "Key" .string) (.map (some (.named "Key")) (some .integer))
    (.map (some .string) (some .integer)) := by
  have hreplaced : (Hint.map (some .string) (some .integer)).descriptor (.single "Key" .string) =
      .object ⟨[], [], .values (.primitive .integer)⟩ := by
    have hstring : Hint.string.isStringKey = true := rfl
    rw [Hint.descriptor, resolve, if_pos hstring, Traced.bind_value, resolve]
    rfl
  have hfollowed : (Hint.map (some (.named "Key")) (some .integer)).descriptor (.single "Key" .string) = .unknown := by
    have hnamed : ¬ (Hint.named "Key").isStringKey = true := Bool.false_ne_true
    rw [Hint.descriptor, resolve, if_neg hnamed]
    rfl
  exact .of_single rfl (by decide) ⟨1, rfl, rfl⟩ hreplaced hfollowed fun h => by cases h

/-- a record inside the type that has its name is cut -/
theorem differs_trees : Differs (.single "Trees" (.array (some (.record ⟨some "Trees", [], false⟩)))) (.named "Trees")
    (.array (some (.record ⟨some "Trees", [], false⟩))) := by
  have hreplaced : (Hint.array (some (.record ⟨some "Trees", [], false⟩))).descriptor
      (.single "Trees" (.array (some (.record ⟨some "Trees", [], false⟩)))) = .array (.object .empty) := by
    rw [Hint.descriptor, resolve, Traced.bind_value, resolve, if_neg List.not_mem_nil, resolveFields]
    rfl
  have hfollowed : (Hint.named "Trees").descriptor
      (.single "Trees" (.array (some (.record ⟨some "Trees", [], false⟩)))) = .array .unknown := by
    rw [Hint.descriptor, resolve_single rfl, resolve, Traced.bind_value, resolve, if_pos List.mem_cons_self]
    rfl
  exact .of_single rfl (by decide) ⟨1, rfl, rfl⟩ hreplaced hfollowed fun h => by cases h

/-- **References hide what they stand for.** Without the conditions an answer may change when a reference is replaced:
the null of optional text gets lost in a union, an alias of null counts as a member, an alias of text is no key of a
mapping, and a record is cut inside of another type that is registered under its name. -/
theorem descriptor_ne_of_standsFor :
    Differs (.single "Text" (.optional .string)) (.union [.named "Text", .integer])
      (.union [.optional .string, .integer]) ∧
    Differs (.single "Nothing" .null) (.union [.named "Nothing", .string]) (.union [.null, .string]) ∧
    Differs (.single "Key" .string) (.map (some (.named "Key")) (some .integer)) (.map (some .string) (some .integer)) ∧
    Differs (.single "Trees" (.array (some (.record ⟨some "Trees", [], false⟩)))) (.named "Trees")
      (.array (some (.record ⟨some "Trees", [], false⟩))) :=
  ⟨differs_text, differs_nothing, differs_key, differs_trees⟩

end ToolSchema
