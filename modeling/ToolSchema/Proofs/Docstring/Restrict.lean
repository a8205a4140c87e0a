/-
Parameter names select among what a text says.

The names of the callable decide which parameters enter the model, and nothing else: what a layout finds, whether it
finds anything, and how entries of one name are merged are all read off the text alone.
- `addEntries_restrict`: with fewer names, the same entries leave fewer parameters.
- `firstModel?_restrict`: the same layout is chosen.
- `extract_restrict`: the model for some names is the model for more names, less the other parameters.
-/
import ToolSchema.Proofs.Docstring.Detection
import ToolSchema.Proofs.Entries

namespace ToolSchema.Docstring

/-- the model with the parameters of these names only -/
def Model.restrict (names : List String) (model : Model) : Model :=
  { model with params := model.params.filter fun p => names.contains p.1 }

variable {names known : List String} {params : Entries ParamDoc} {style : Style} {ls : List Line}

/-! ## Entries -/

theorem addEntry_value (params : Entries ParamDoc) (e : Entry) :
    (addEntry names params e).value =
      if names.contains (String.ofList e.name) then
        params.put (String.ofList e.name) (((params.lookup (String.ofList e.name)).getD ⟨none, none⟩).merge e)
      else params := by
  rw [addEntry]
  split
  · rfl
  · rfl

/-- What is known about a kept parameter is found among the kept parameters, so the merge comes out the same. -/
theorem addEntry_restrict (h : names ⊆ known) (e : Entry) :
    (addEntry names (params.filter fun p => names.contains p.1) e).value =
      (addEntry known params e).value.filter fun p => names.contains p.1 := by
  rw [addEntry_value, addEntry_value]
  by_cases hname : names.contains (String.ofList e.name) = true
  · have hknown : known.contains (String.ofList e.name) = true :=
      List.contains_iff_mem.2 (h (List.contains_iff_mem.1 hname))
    rw [if_pos hname, if_pos hknown, Entries.filter_put, if_pos hname, Entries.lookup_filter hname]
  · rw [if_neg hname]
    split
    · rw [Entries.filter_put, if_neg hname]
    · rfl

theorem addEntries_restrict (h : names ⊆ known) (entries : List Entry) :
    (addEntries names (params.filter fun p => names.contains p.1) entries).value =
      (addEntries known params entries).value.filter fun p => names.contains p.1 := by
  induction entries generalizing params with
  | nil => rfl
  | cons e rest ih =>
    rw [addEntries, Traced.bind_value, addEntry_restrict h, ih, addEntries, Traced.bind_value]

/-! ## Layouts -/

theorem toModel?_restrict (h : names ⊆ known) (f : Findings) :
    (f.toModel? style names).value = (f.toModel? style known).value.map (Model.restrict names) := by
  rw [Findings.toModel?, Findings.toModel?]
  by_cases hempty : f.isEmpty = true
  · rw [if_pos hempty, if_pos hempty]
    rfl
  · have hparams : (addEntries names [] f.entries).value =
        (addEntries known [] f.entries).value.filter fun p => names.contains p.1 :=
      @addEntries_restrict names known [] h f.entries
    rw [if_neg hempty, if_neg hempty, Traced.bind_value, Traced.bind_value, hparams]
    rfl

theorem parse?_restrict (h : names ⊆ known) :
    (style.parse? ls names).value = (style.parse? ls known).value.map (Model.restrict names) :=
  toModel?_restrict h _

/-- the names have no say in which layout is chosen -/
theorem firstModel?_restrict (h : names ⊆ known) :
    firstModel? ls names = (firstModel? ls known).map (Model.restrict names) := by
  have hlayout : (fun style : Style => (style.parse? ls names).value) =
      Option.map (Model.restrict names) ∘ fun style => (style.parse? ls known).value := by
    funext style
    exact parse?_restrict h
  rw [firstModel?, firstModel?, List.map_findSome?, hlayout]

/-! ## Extraction -/

theorem extract_value_restrict (raw : String) (h : names ⊆ known) :
    (extract raw names).value = (extract raw known).value.restrict names := by
  rw [extract_value, extract_value]
  split
  · rfl
  · rw [firstModel?_restrict h]
    cases firstModel? (clean raw.toList) known with
    | none => rfl
    | some model => rfl

/-- **Parameter names only select.** For any text and any two lists of names, all of the first among the second, the
model for the first list is the model for the second with the other parameters left out: summary, description, return
value and layout are the same, and the parameters that stay keep their order, types and texts. Two lists with the same
names, in whatever order and however often, have the same model. -/
theorem extract_restrict (raw : String) {names known : List String} (h : names ⊆ known) :
    (extract raw names).value =
      { (extract raw known).value with
        params := (extract raw known).value.params.filter fun p => names.contains p.1 } ∧
    (known ⊆ names → (extract raw names).value = (extract raw known).value) := by
  refine ⟨extract_value_restrict raw h, fun hback => ?_⟩
  have hself : (extract raw known).value = (extract raw known).value.restrict known :=
    extract_value_restrict raw (List.Subset.refl known)
  have hsame : (fun p : String × ParamDoc => names.contains p.1) = fun p => known.contains p.1 := by
    funext p
    rw [Bool.eq_iff_iff, List.contains_iff_mem, List.contains_iff_mem]
    exact ⟨fun hp => h hp, fun hp => hback hp⟩
  rw [extract_value_restrict raw h, Model.restrict, hsame]
  exact hself.symm

/-- The type of `b` stands in its tag and its text in another entry: both stay when `a` goes. -/
theorem extract_restrict_second :
    ["b"] ⊆ ["b", "a", "b"] ∧
    (extract "Sum.\n\n:param a: First.\n:param b: Second.\n:type b: int" ["b"]).value =
      ⟨"Sum.", "Sum.", [("b", ⟨some "int", some "Second."⟩)], none, some .tag⟩ := by
  have hsub : ["b"] ⊆ ["b", "a", "b"] := by decide
  refine ⟨hsub, ?_⟩
  rw [(extract_restrict _ hsub).1]
  decide +kernel

end ToolSchema.Docstring
