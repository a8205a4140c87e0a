/-
Parameters that are added to a document one after another.

A parameter may be added again under its name. The property is then that of the last one (`lookup_properties_eq`). The
required names do not follow: every parameter without a default adds its name, and none takes it away.
- `RequiredByLast`: the required names are those whose last parameter has no default, each once.
- `requiredByLast_add`: one parameter more keeps this just if its name is not required yet.
- `requiredByLast_ofList`: so it holds just if no parameter comes again after one without a default.
- `not_requiredByLast_again`: a name that is required twice, and one that stays required.
-/
import ToolSchema.Document
import ToolSchema.Proofs.Writes

namespace ToolSchema.Document

variable {p : ParameterInfo} {d : Document}

/-- the document to which parameters are added in this order -/
def ofList (description : String) (ps : List ParameterInfo) : Document :=
  ps.foldl (fun d p => d.add p) (empty description)

/-- the parameter that was added last under a name -/
def last? (name : String) (d : Document) : Option ParameterInfo :=
  d.parameters.reverse.find? (·.name == name)

theorem ofList_concat (description : String) (ps : List ParameterInfo) (p : ParameterInfo) :
    ofList description (ps ++ [p]) = (ofList description ps).add p :=
  List.foldl_append

theorem parameters_ofList (description : String) (ps : List ParameterInfo) : (ofList description ps).parameters = ps := by
  induction ps using List.reverseRecOn with
  | nil => rfl
  | append_singleton ps p ih => rw [ofList_concat, add, ih]

/-! ## Properties -/

theorem last?_add (name : String) (p : ParameterInfo) (d : Document) :
    (d.add p).last? name = if p.name = name then some p else d.last? name := by
  rw [last?, add, List.reverse_append, List.reverse_singleton, List.singleton_append]
  by_cases hname : p.name = name
  · rw [List.find?_cons_of_pos (by simpa using hname), if_pos hname]
  · rw [List.find?_cons_of_neg (by simpa using hname), if_neg hname, last?]

theorem name_of_last? {name : String} (h : d.last? name = some p) : p.name = name := by
  simpa using List.find?_some h

theorem mem_of_last? {name : String} (h : d.last? name = some p) : p ∈ d.parameters :=
  List.mem_reverse.1 (List.mem_of_find?_eq_some h)

/-- **The last parameter of a name is rendered.** -/
theorem lookup_properties_eq (name : String) (d : Document) :
    d.properties.lookup name = (d.last? name).map ParameterInfo.property := by
  have hlookup : ∀ ps : List ParameterInfo,
      (ps.map fun p => (p.name, p.property)).lookup name = (ps.find? (·.name == name)).map ParameterInfo.property := by
    intro ps
    induction ps with
    | nil => rfl
    | cons p rest ih =>
      rw [List.map_cons, Entries.lookup_cons_if, ih]
      by_cases hname : p.name = name
      · rw [if_pos hname.symm, List.find?_cons_of_pos (by simpa using hname), Option.map_some]
      · rw [if_neg (Ne.symm hname), List.find?_cons_of_neg (by simpa using hname)]
  have hwrites := Entries.lookup_putAll name [] (d.parameters.map fun p => (p.name, p.property))
  rw [List.lookup_nil, Option.or_none, ← List.map_reverse, hlookup] at hwrites
  exact hwrites

/-! ## Required names -/

/-- required are the names whose last parameter has no default, each once -/
structure RequiredByLast (d : Document) : Prop where
  nodup : d.required.Nodup
  mem_iff : ∀ name, name ∈ d.required ↔ ∃ p, d.last? name = some p ∧ p.isRequired = true

theorem mem_required {name : String} :
    name ∈ d.required ↔ ∃ p ∈ d.parameters, p.isRequired = true ∧ p.name = name := by
  simp only [required, List.mem_map, List.mem_filter, and_assoc]

theorem required_add (p : ParameterInfo) (d : Document) :
    (d.add p).required = if p.isRequired then d.required ++ [p.name] else d.required := by
  cases hrequired : p.isRequired <;> simp [required, add, hrequired]

theorem mem_required_add {name : String} :
    name ∈ (d.add p).required ↔ name ∈ d.required ∨ p.isRequired = true ∧ p.name = name := by
  rw [required_add]
  split
  · next hrequired => simp [hrequired, eq_comm]
  · next hdefault => simp [hdefault]

theorem exists_last?_add_iff {name : String} (hname : p.name ≠ name) :
    (∃ q, (d.add p).last? name = some q ∧ q.isRequired = true) ↔
      ∃ q, d.last? name = some q ∧ q.isRequired = true := by
  rw [last?_add, if_neg hname]

theorem exists_last?_add_self_iff :
    (∃ q, (d.add p).last? p.name = some q ∧ q.isRequired = true) ↔ p.isRequired = true := by
  rw [last?_add, if_pos rfl]
  simp

/-- **One parameter more.** The required names are still those by last parameters just if they were, and the name of the
new one is not among them. -/
theorem requiredByLast_add (p : ParameterInfo) (d : Document) :
    (d.add p).RequiredByLast ↔ d.RequiredByLast ∧ p.name ∉ d.required := by
  constructor
  · rintro ⟨hnodup, hmem⟩
    have hnew : p.name ∉ d.required := by
      intro hold
      -- the new one is required again, or it gives a default to a name that stays
      have hrequired := exists_last?_add_self_iff.1 ((hmem p.name).1 (mem_required_add.2 (.inl hold)))
      rw [required_add, if_pos hrequired, List.nodup_append] at hnodup
      exact hnodup.2.2 _ hold _ List.mem_cons_self rfl
    refine ⟨⟨?_, fun name => ?_⟩, hnew⟩
    · rw [required_add] at hnodup
      split at hnodup
      · exact (List.nodup_append.1 hnodup).1
      · exact hnodup
    · by_cases hname : p.name = name
      · subst hname
        refine iff_of_false hnew ?_
        rintro ⟨q, hq, hrequired⟩
        exact hnew (mem_required.2 ⟨q, mem_of_last? hq, hrequired, name_of_last? hq⟩)
      · rw [← exists_last?_add_iff hname, ← hmem, mem_required_add]
        simp [hname]
  · rintro ⟨⟨hnodup, hmem⟩, hnew⟩
    refine ⟨?_, fun name => ?_⟩
    · rw [required_add]
      split
      · rw [List.nodup_append]
        refine ⟨hnodup, List.pairwise_singleton _ _, fun a ha b hb => ?_⟩
        rw [List.mem_singleton.1 hb]
        exact fun heq => hnew (heq ▸ ha)
      · exact hnodup
    · rw [mem_required_add]
      by_cases hname : p.name = name
      · subst hname
        rw [exists_last?_add_self_iff]
        simp [hnew]
      · rw [exists_last?_add_iff hname, ← hmem]
        simp [hname]

theorem requiredByLast_empty (description : String) : (empty description).RequiredByLast where
  nodup := List.nodup_nil
  mem_iff _ := iff_of_false List.not_mem_nil (by rintro ⟨q, hq, -⟩; cases hq)

/-- additions one after another keep it just if none comes after one without a default of its name -/
theorem requiredByLast_ofList (description : String) (ps : List ParameterInfo) :
    (ofList description ps).RequiredByLast ↔
      ps.Pairwise fun p q => p.isRequired = true → q.name ≠ p.name := by
  induction ps using List.reverseRecOn with
  | nil => exact iff_of_true (requiredByLast_empty description) .nil
  | append_singleton ps p ih =>
    have hnew : p.name ∉ (ofList description ps).required ↔
        ∀ q ∈ ps, q.isRequired = true → p.name ≠ q.name := by
      rw [mem_required, parameters_ofList, not_exists]
      exact forall_congr' fun q => by simp [Ne, eq_comm (a := p.name)]
    rw [ofList_concat, requiredByLast_add, ih, hnew, List.pairwise_append]
    simp

/-- **Documents to which parameters are added.** Whatever is added in whatever order, the document is rendered as an
object schema whose properties are those of the last parameters of their names. Its required names are without repeats,
and just the properties whose last parameter has no default, if and only if no parameter is added under the name of an
earlier one without a default. -/
theorem toJson_ofList (description : String) (ps : List ParameterInfo) : ∃ properties required,
    (ofList description ps).toJson =
        .object [("type", .string "object"), ("properties", .object properties), ("required", .ofStrings required)] ∧
      (∀ name, properties.lookup name = (ps.reverse.find? (·.name == name)).map ParameterInfo.property) ∧
      ((required.Nodup ∧ ∀ name, name ∈ required ↔
          ∃ p, ps.reverse.find? (·.name == name) = some p ∧ p.isRequired = true) ↔
        ps.Pairwise fun p q => p.isRequired = true → q.name ≠ p.name) := by
  have hlast : ∀ name, (ofList description ps).last? name = ps.reverse.find? (·.name == name) := by
    intro name
    rw [last?, parameters_ofList]
  refine ⟨_, _, rfl, fun name => ?_, ?_⟩
  · rw [lookup_properties_eq, hlast]
  · rw [← requiredByLast_ofList description ps]
    simp only [← hlast]
    exact ⟨fun ⟨hnodup, hmem⟩ => ⟨hnodup, hmem⟩, fun h => ⟨h.nodup, h.mem_iff⟩⟩

/-- a place that is required, and the same with a default -/
def place (hasDefault : Bool) : ParameterInfo :=
  ⟨"place", .primitive .string, none, hasDefault, none⟩

/-- Added twice, a required name stands there twice. Added again with a default, it stays required. -/
theorem not_requiredByLast_again :
    (ofList "Sum." [place false, place false]).required = ["place", "place"] ∧
    ¬ (ofList "Sum." [place false, place false]).RequiredByLast ∧
    (ofList "Sum." [place false, place true]).required = ["place"] ∧
    ¬ (ofList "Sum." [place false, place true]).RequiredByLast := by
  refine ⟨rfl, fun h => ?_, rfl, fun h => ?_⟩
  · exact absurd h.nodup (by decide)
  · obtain ⟨p, hp, hrequired⟩ := (h.mem_iff "place").1 (by decide)
    cases hp
    cases hrequired

end ToolSchema.Document
