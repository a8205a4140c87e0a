/-
Hints with others in the place of their names.

`subst` puts a hint in the place of every name, keys included. `Registry.unfold` looks a name up, then the names in its
hint, and so on to some depth; `StandsFor` is what a hint comes to when no name is left in this way.
- `names_subst`, `members_subst`: the names and the members of the hints that are put in.
- `StandsFor.unique`: there is no choice in what a hint stands for.
- `exists_standsFor`: there is something it stands for if all names that it meets are registered, and none of them meets
  itself again (`Meets`, `Registry.Acyclic`). The names on the way are all different, so that one of those still fresh
  is used up with every step.
-/
import ToolSchema.Proofs.Hint.Names
import ToolSchema.Proofs.Resolve.Free

namespace ToolSchema

namespace Hint

/-! ## Substitution -/

mutual

/-- the hint with another one in the place of every name -/
def subst (f : String → Hint) : Hint → Hint
  | .array item => .array (optionSubst f item)
  | .map key value => .map (optionSubst f key) (optionSubst f value)
  | .optional inner => .optional (subst f inner)
  | .union hints => .union (allSubst f hints)
  | .record ⟨name, fields, closed⟩ => .record ⟨name, fieldsSubst f fields, closed⟩
  | .named name => f name
  | h => h

def optionSubst (f : String → Hint) : Option Hint → Option Hint
  | none => none
  | some h => some (subst f h)

def allSubst (f : String → Hint) : List Hint → List Hint
  | [] => []
  | h :: rest => subst f h :: allSubst f rest

def fieldsSubst (f : String → Hint) : List (Field Hint) → List (Field Hint)
  | [] => []
  | ⟨name, h, required⟩ :: rest => ⟨name, subst f h, required⟩ :: fieldsSubst f rest

end

variable {f g : String → Hint}

mutual

theorem names_subst (f : String → Hint) (h : Hint) :
    (h.subst f).names = h.names.flatMap fun name => (f name).names := by
  cases h with
  | array item => exact optionNames_subst f item
  | map key value =>
    rw [subst, names, optionNames_subst f key, optionNames_subst f value, names, List.flatMap_append]
  | optional inner => exact names_subst f inner
  | union hints => exact allNames_subst f hints
  | record record =>
    obtain ⟨name, fields, closed⟩ := record
    exact fieldNames_subst f fields
  | named name => exact (List.flatMap_singleton _ _).symm
  | _ => rfl

theorem optionNames_subst (f : String → Hint) (item : Option Hint) :
    optionNames (optionSubst f item) = (optionNames item).flatMap fun name => (f name).names := by
  cases item with
  | none => rfl
  | some h => exact names_subst f h

theorem allNames_subst (f : String → Hint) (hints : List Hint) :
    allNames (allSubst f hints) = (allNames hints).flatMap fun name => (f name).names := by
  cases hints with
  | nil => rfl
  | cons h rest => rw [allSubst, allNames, names_subst f h, allNames_subst f rest, allNames, List.flatMap_append]

theorem fieldNames_subst (f : String → Hint) (fields : List (Field Hint)) :
    fieldNames (fieldsSubst f fields) = (fieldNames fields).flatMap fun name => (f name).names := by
  cases fields with
  | nil => rfl
  | cons field rest =>
    rw [fieldsSubst, fieldNames, names_subst f field.hint, fieldNames_subst f rest, fieldNames, List.flatMap_append]

end

mutual

/-- only the names of the hint matter -/
theorem subst_congr (h : Hint) (hfg : ∀ name ∈ h.names, f name = g name) : h.subst f = h.subst g := by
  cases h with
  | array item => rw [subst, subst, optionSubst_congr item hfg]
  | map key value =>
    have hkey := optionSubst_congr key fun name hname => hfg name (List.mem_append_left _ hname)
    have hvalue := optionSubst_congr value fun name hname => hfg name (List.mem_append_right _ hname)
    rw [subst, subst, hkey, hvalue]
  | optional inner => rw [subst, subst, subst_congr inner hfg]
  | union hints => rw [subst, subst, allSubst_congr hints hfg]
  | record record =>
    obtain ⟨name, fields, closed⟩ := record
    rw [subst, subst, fieldsSubst_congr fields hfg]
  | named name => exact hfg name (List.mem_singleton_self name)
  | _ => rfl

theorem optionSubst_congr (item : Option Hint) (hfg : ∀ name ∈ optionNames item, f name = g name) :
    optionSubst f item = optionSubst g item := by
  cases item with
  | none => rfl
  | some h => rw [optionSubst, optionSubst, subst_congr h hfg]

theorem allSubst_congr (hints : List Hint) (hfg : ∀ name ∈ allNames hints, f name = g name) :
    allSubst f hints = allSubst g hints := by
  cases hints with
  | nil => rfl
  | cons h rest =>
    have hfirst := subst_congr h fun name hname => hfg name (List.mem_append_left _ hname)
    have hrest := allSubst_congr rest fun name hname => hfg name (List.mem_append_right _ hname)
    rw [allSubst, allSubst, hfirst, hrest]

theorem fieldsSubst_congr (fields : List (Field Hint)) (hfg : ∀ name ∈ fieldNames fields, f name = g name) :
    fieldsSubst f fields = fieldsSubst g fields := by
  cases fields with
  | nil => rfl
  | cons field rest =>
    have hfirst := subst_congr field.hint fun name hname => hfg name (List.mem_append_left _ hname)
    have hrest := fieldsSubst_congr rest fun name hname => hfg name (List.mem_append_right _ hname)
    rw [fieldsSubst, fieldsSubst, hfirst, hrest]

end

mutual

/-- the members of a union are replaced one by one, and flattened again -/
theorem members_subst (f : String → Hint) (h : Hint) :
    (h.subst f).members = h.members.flatMap fun m => (m.subst f).members := by
  cases h with
  | optional inner =>
    rw [subst, members, members_subst f inner, members, List.flatMap_append]
    rfl
  | union hints => exact allMembers_subst f hints
  | _ => exact (List.flatMap_singleton _ _).symm

theorem allMembers_subst (f : String → Hint) (hints : List Hint) :
    allMembers (allSubst f hints) = (allMembers hints).flatMap fun m => (m.subst f).members := by
  cases hints with
  | nil => rfl
  | cons h rest =>
    rw [allSubst, allMembers, members_subst f h, allMembers_subst f rest, allMembers, List.flatMap_append]

end

/-- a replacement makes a union out of names only -/
theorem members_subst_of_ne_named {m : Hint} (hm : m.members = [m]) (hname : ∀ name, m ≠ .named name) :
    (m.subst f).members = [m.subst f] := by
  cases m with
  | named name => exact absurd rfl (hname name)
  | optional inner =>
    have hlast := congrArg List.getLast? hm
    rw [members, List.getLast?_concat] at hlast
    cases hlast
  | union hints =>
    have hself : (Hint.union hints).weight < (Hint.union hints).weight := by
      have hless := weightAll_members_union hints
      rw [hm, weightAll, weightAll] at hless
      omega
    exact absurd hself (Nat.lt_irrefl _)
  | record record => rfl
  | _ => rfl

mutual

/-- flattening a union keeps its names -/
theorem allNames_members (h : Hint) : allNames h.members = h.names := by
  cases h with
  | optional inner =>
    rw [members, allNames_eq_flatMap, List.flatMap_append, ← allNames_eq_flatMap, allNames_members inner]
    exact List.append_nil inner.names
  | union hints => exact allNames_allMembers hints
  | _ => exact List.append_nil _

theorem allNames_allMembers (hints : List Hint) : allNames (allMembers hints) = allNames hints := by
  cases hints with
  | nil => rfl
  | cons h rest =>
    rw [allMembers, allNames_eq_flatMap, List.flatMap_append, ← allNames_eq_flatMap, ← allNames_eq_flatMap,
      allNames_members h, allNames_allMembers rest, allNames]

end

theorem names_subset_of_mem_members {h m : Hint} (hm : m ∈ h.members) : m.names ⊆ h.names := by
  rw [← allNames_members h, allNames_eq_flatMap]
  exact fun name hname => List.mem_flatMap.2 ⟨m, hm, hname⟩

/-- where no name is left in a hint, none is left in one with fewer names -/
theorem names_subst_of_subset {h m : Hint} (hnone : (h.subst f).names = []) (hsubset : m.names ⊆ h.names) :
    (m.subst f).names = [] := by
  rw [names_subst, List.flatMap_eq_nil_iff] at hnone ⊢
  exact fun name hname => hnone name (hsubset hname)

theorem fieldsSubst_eq_map (f : String → Hint) (fields : List (Field Hint)) :
    fieldsSubst f fields = fields.map fun field => field.withType (field.hint.subst f) := by
  induction fields with
  | nil => rfl
  | cons field rest ih =>
    rw [fieldsSubst, ih]
    rfl

end Hint

/-! ## Unfolding names -/

namespace Registry

/-- the hint of a name, and in it the hints of further names, as deep as told -/
def unfold (r : Registry) : Nat → String → Hint
  | 0, name => .named name
  | depth + 1, name =>
    match r.get? name with
    | some hint => hint.subst (r.unfold depth)
    | none => .named name

end Registry

variable {r : Registry} {depth : Nat} {name : String} {h hint goal : Hint}

theorem Registry.unfold_of_get? (hget : r.get? name = some hint) :
    r.unfold (depth + 1) name = hint.subst (r.unfold depth) := by
  rw [unfold, hget]

/-- a name in which no name is left is registered -/
theorem Registry.exists_get?_of_names_unfold (h : (r.unfold depth name).names = []) :
    ∃ before hint, depth = before + 1 ∧ r.get? name = some hint ∧ (hint.subst (r.unfold before)).names = [] := by
  cases depth with
  | zero => cases h
  | succ before =>
    cases hget : r.get? name with
    | none =>
      rw [unfold, hget] at h
      cases h
    | some hint =>
      rw [unfold_of_get? hget] at h
      exact ⟨before, hint, rfl, rfl, h⟩

theorem Hint.names_unfold_of_mem (hnone : (h.subst (r.unfold depth)).names = []) (hname : name ∈ h.names) :
    (r.unfold depth name).names = [] := by
  rw [names_subst, List.flatMap_eq_nil_iff] at hnone
  exact hnone name hname

/-- where no name is left there is nothing more to look up -/
theorem Registry.unfold_of_le {depth' : Nat} (hnone : (r.unfold depth name).names = []) (hle : depth ≤ depth') :
    r.unfold depth' name = r.unfold depth name := by
  induction depth generalizing name depth' with
  | zero => cases hnone
  | succ depth ih =>
    obtain ⟨before, hint, hdepth, hget, hnames⟩ := exists_get?_of_names_unfold hnone
    cases hdepth
    cases depth' with
    | zero => cases hle
    | succ depth' =>
      rw [unfold_of_get? hget, unfold_of_get? hget]
      exact Hint.subst_congr hint fun m hm => ih (Hint.names_unfold_of_mem hnames hm) (Nat.le_of_succ_le_succ hle)

/-- what the hint comes to when all names in it are replaced, again and again -/
def StandsFor (r : Registry) (h e : Hint) : Prop :=
  ∃ depth, h.subst (r.unfold depth) = e ∧ e.names = []

theorem StandsFor.unique {e e' : Hint} (he : StandsFor r h e) (he' : StandsFor r h e') : e = e' := by
  obtain ⟨depth, rfl, hnames⟩ := he
  obtain ⟨depth', rfl, hnames'⟩ := he'
  refine Hint.subst_congr h fun name hname => ?_
  have hfirst := Hint.names_unfold_of_mem hnames hname
  have hsecond := Hint.names_unfold_of_mem hnames' hname
  rcases Nat.le_total depth depth' with hle | hle
  · exact (Registry.unfold_of_le hfirst hle).symm
  · exact Registry.unfold_of_le hsecond hle

/-! ## What a hint meets -/

/-- The goal is the hint itself, or a part of it, or it is met in the same way by the hint of a name among the parts. -/
inductive Meets (r : Registry) (goal : Hint) : Hint → Prop
  | self : Meets r goal goal
  | item {item : Hint} (h : Meets r goal item) : Meets r goal (.array (some item))
  | key {key : Hint} {value : Option Hint} (h : Meets r goal key) : Meets r goal (.map (some key) value)
  | value {key : Option Hint} {value : Hint} (h : Meets r goal value) : Meets r goal (.map key (some value))
  | inner {inner : Hint} (h : Meets r goal inner) : Meets r goal (.optional inner)
  | member {m : Hint} {hints : List Hint} (hm : m ∈ hints) (h : Meets r goal m) : Meets r goal (.union hints)
  | field {f : Field Hint} {record : Record Hint} (hf : f ∈ record.fields) (h : Meets r goal f.hint) :
    Meets r goal (.record record)
  | reference {name : String} {hint : Hint} (hget : r.get? name = some hint) (h : Meets r goal hint) :
    Meets r goal (.named name)

/-- no registered name meets itself again -/
def Registry.Acyclic (r : Registry) : Prop :=
  ∀ name hint, r.get? name = some hint → ¬ Meets r (.named name) hint

theorem Meets.trans {h' : Hint} (hgoal : Meets r goal h) (hmeets : Meets r h h') : Meets r goal h' := by
  induction hmeets with
  | self => exact hgoal
  | item _ ih => exact .item ih
  | key _ ih => exact .key ih
  | value _ ih => exact .value ih
  | inner _ ih => exact .inner ih
  | member hm _ ih => exact .member hm ih
  | field hf _ ih => exact .field hf ih
  | reference hget _ ih => exact .reference hget ih

theorem Meets.of_mem_names (hname : name ∈ h.names) : Meets r (.named name) h := by
  induction h using Hint.weight_induct with
  | step h smaller =>
  cases h with
  | array item =>
    cases item with
    | none => cases hname
    | some item => exact .item (smaller item (Hint.weight_item_lt item) hname)
  | map key value =>
    rcases List.mem_append.1 hname with hkey | hvalue
    · cases key with
      | none => cases hkey
      | some key => exact .key (smaller key (Hint.weight_key_lt key value) hkey)
    · cases value with
      | none => cases hvalue
      | some value => exact .value (smaller value (Hint.weight_value_lt key value) hvalue)
  | optional inner => exact .inner (smaller inner (Hint.weight_inner_lt inner) hname)
  | union hints =>
    rw [Hint.names, Hint.allNames_eq_flatMap] at hname
    obtain ⟨m, hm, hname⟩ := List.mem_flatMap.1 hname
    exact .member hm (smaller m (Hint.weight_alternative_lt hm) hname)
  | record record =>
    obtain ⟨own, fields, closed⟩ := record
    rw [Hint.names, Hint.fieldNames_eq_flatMap] at hname
    obtain ⟨f, hf, hname⟩ := List.mem_flatMap.1 hname
    exact .field hf (smaller f.hint (Hint.weight_field_lt hf) hname)
  | named own =>
    rw [List.mem_singleton.1 hname]
    exact .self
  | _ => cases hname

/-- a name that is met stands in the hint, or behind one that does -/
theorem Meets.cases_names (hmeets : Meets r (.named name) h) :
    name ∈ h.names ∨ ∃ m ∈ h.names, ∃ hint, r.get? m = some hint ∧ Meets r (.named name) hint := by
  -- what holds of the names of a part holds of the names of the whole
  have hlift : ∀ {part whole : Hint}, part.names ⊆ whole.names →
      (name ∈ part.names ∨ ∃ m ∈ part.names, ∃ hint, r.get? m = some hint ∧ Meets r (.named name) hint) →
      name ∈ whole.names ∨ ∃ m ∈ whole.names, ∃ hint, r.get? m = some hint ∧ Meets r (.named name) hint :=
    fun hsub => Or.imp (fun hname => hsub hname) fun ⟨m, hm, hbehind⟩ => ⟨m, hsub hm, hbehind⟩
  induction hmeets with
  | self => exact .inl (List.mem_singleton_self name)
  | item _ ih => exact hlift (List.Subset.refl _) ih
  | key _ ih => exact hlift (List.subset_append_left _ _) ih
  | value _ ih => exact hlift (List.subset_append_right _ _) ih
  | inner _ ih => exact hlift (List.Subset.refl _) ih
  | member hm _ ih => exact hlift (Hint.names_subset_of_mem_union hm) ih
  | field hf _ ih => exact hlift (Hint.names_subset_of_mem_fields hf) ih
  | @reference m hint hget hbehind _ => exact .inr ⟨m, List.mem_singleton_self m, hint, hget, hbehind⟩

/-- a hint without names meets none -/
theorem Meets.names_ne_nil (hmeets : Meets r (.named name) h) : h.names ≠ [] := by
  intro hnil
  rcases hmeets.cases_names with hname | ⟨m, hm, -⟩
  · rw [hnil] at hname
    cases hname
  · rw [hnil] at hm
    cases hm

mutual

/-- the members of a union are met in it, and null with what is optional -/
theorem Meets.of_mem_members {h m : Hint} (hm : m ∈ h.members) : m = .null ∨ Meets r m h := by
  cases h with
  | optional inner =>
    rcases List.mem_append.1 hm with hm | hnull
    · exact (of_mem_members hm).imp_right .inner
    · exact .inl (List.mem_singleton.1 hnull)
  | union hints =>
    rcases of_mem_allMembers hm with hnull | ⟨h, hh, hmeets⟩
    · exact .inl hnull
    · exact .inr (.member hh hmeets)
  | _ =>
    rw [List.mem_singleton.1 hm]
    exact .inr .self

theorem Meets.of_mem_allMembers {hints : List Hint} {m : Hint} (hm : m ∈ Hint.allMembers hints) :
    m = .null ∨ ∃ h ∈ hints, Meets r m h := by
  cases hints with
  | nil => cases hm
  | cons h rest =>
    rcases List.mem_append.1 hm with hm | hm
    · exact (of_mem_members hm).imp_right fun hmeets => ⟨h, List.mem_cons_self, hmeets⟩
    · exact (of_mem_allMembers hm).imp_right fun ⟨h', hh, hmeets⟩ => ⟨h', List.mem_cons_of_mem h hh, hmeets⟩

end

/-- what a member meets, the whole meets, unless it is null -/
theorem Meets.of_member {h m part : Hint} (hm : m ∈ h.members) (hmeets : Meets r part m) :
    part = .null ∨ Meets r part h := by
  rcases of_mem_members hm with rfl | hwhole
  · cases hmeets
    exact .inl rfl
  · exact .inr (hmeets.trans hwhole)

/-! ## Existence -/

/-- one depth does for finitely many names -/
theorem Registry.exists_depth {names : List String} (h : ∀ name ∈ names, ∃ depth, (r.unfold depth name).names = []) :
    ∃ depth, ∀ name ∈ names, (r.unfold depth name).names = [] := by
  induction names with
  | nil => exact ⟨0, fun _ hname => absurd hname List.not_mem_nil⟩
  | cons name rest ih =>
    rw [List.forall_mem_cons] at h
    obtain ⟨first, hfirst⟩ := h.1
    obtain ⟨others, hothers⟩ := ih h.2
    refine ⟨max first others, List.forall_mem_cons.2 ⟨?_, fun m hm => ?_⟩⟩
    · rw [unfold_of_le hfirst (Nat.le_max_left _ _)]
      exact hfirst
    · rw [unfold_of_le (hothers m hm) (Nat.le_max_right _ _)]
      exact hothers m hm

theorem exists_subst_unfold (hacyclic : r.Acyclic) (visited : List String) (h : Hint)
    (hvisited : ∀ name ∈ visited, ¬ Meets r (.named name) h)
    (hregistered : ∀ name, Meets r (.named name) h → (r.get? name).isSome) :
    ∃ depth, (h.subst (r.unfold depth)).names = [] := by
  have hnames : ∀ name ∈ h.names, ∃ depth, (r.unfold depth name).names = [] := by
    intro name hname
    have hmeets : Meets r (.named name) h := .of_mem_names hname
    obtain ⟨hint, hget⟩ := Option.isSome_iff_exists.1 (hregistered name hmeets)
    have hvia : ∀ m, Meets r (.named m) hint → Meets r (.named m) h := fun m hm =>
      (Meets.reference hget hm).trans hmeets
    have _hless : fresh r.names (name :: visited) < fresh r.names visited :=
      fresh_cons_lt (Registry.mem_names_of_get? hget) fun hmem => hvisited name hmem hmeets
    obtain ⟨depth, hdepth⟩ := exists_subst_unfold hacyclic (name :: visited) hint
      (List.forall_mem_cons.2 ⟨hacyclic name hint hget, fun m hm hmeets => hvisited m hm (hvia m hmeets)⟩)
      (fun m hm => hregistered m (hvia m hm))
    exact ⟨depth + 1, by rw [Registry.unfold_of_get? hget]; exact hdepth⟩
  obtain ⟨depth, hdepth⟩ := Registry.exists_depth hnames
  refine ⟨depth, ?_⟩
  rw [Hint.names_subst, List.flatMap_eq_nil_iff]
  exact hdepth
termination_by fresh r.names visited

/-- **Without cycles every hint stands for one without names**, if all names it meets are registered. -/
theorem exists_standsFor (hacyclic : r.Acyclic) (hregistered : ∀ name, Meets r (.named name) h → (r.get? name).isSome) :
    ∃ e, StandsFor r h e := by
  obtain ⟨depth, hnames⟩ := exists_subst_unfold hacyclic [] h (fun _ hmem => absurd hmem List.not_mem_nil) hregistered
  exact ⟨h.subst (r.unfold depth), depth, rfl, hnames⟩

end ToolSchema
