/-
One parameter more.

What a document says about a parameter depends on this parameter and the documentation alone. The names of the others
only select what enters the model (`Docstring.extract_value_restrict`), and every type is resolved from the registry,
with no name under expansion.
- `infoOf_model`: a parameter is described as in a signature that has no other.
- `documentOf_eq_own`: so a document is put together from what its parameters are described as by themselves.
- `Document.inserts_of_parameters`: one more of them leaves the entries of the others where they are.
- `generate_insert`: this is what a signature with one parameter more gets, if nothing is required.
-/
import ToolSchema.Proofs.Docstring.Restrict
import ToolSchema.Proofs.Generate.Ignored
import ToolSchema.Proofs.Generate.Success

namespace ToolSchema

variable {g : Generator} {o : Options} {s : Signature} {p : Parameter}

/-! ## Options that require nothing -/

/-- nothing is required of the documentation, and every type is accepted -/
structure Options.Permissive (o : Options) : Prop where
  allParams : o.requireAllParamsInDoc = false
  descriptions : o.requireDescriptionsForParams = false
  shortDescription : o.requireShortDescription = false
  bareGenericTypes : o.allowBareGenericTypes = true

/-- a valid signature is accepted where nothing is required -/
theorem Options.Permissive.accepted (h : o.Permissive) (hs : s.validate = .ok ()) : s.Accepted o := by
  obtain ⟨hidentifiers, hdistinct⟩ := Signature.validate_eq_ok_iff.1 hs
  refine ⟨hidentifiers, hdistinct, ?_, ?_, ?_, ?_, ?_⟩
  · simp [Options.requiresDocstring, h.allParams, h.descriptions, h.shortDescription]
  · simp [h.shortDescription]
  · simp [h.allParams]
  · simp [h.descriptions]
  · simp [h.bareGenericTypes]

theorem Signature.validate_insert {before after : List Parameter} (hs : s.validate = .ok ())
    (hsplit : s.parameters = before ++ after) (hname : Text.isIdentifier p.name.toList = true)
    (hnew : p.name ∉ s.parameterNames) : { s with parameters := before ++ p :: after }.validate = .ok () := by
  obtain ⟨hidentifiers, hdistinct⟩ := validate_eq_ok_iff.1 hs
  rw [parameterNames, hsplit] at hidentifiers hdistinct hnew
  have hperm : ((before ++ p :: after).map Parameter.name).Perm (p.name :: (before ++ after).map Parameter.name) :=
    List.perm_middle.map Parameter.name
  refine validate_eq_ok_iff.2 ⟨fun name hmem => ?_, hperm.nodup_iff.2 (List.nodup_cons.2 ⟨hnew, hdistinct⟩)⟩
  rcases List.mem_cons.1 hmem with rfl | hmem
  · exact hidentifiers _ List.mem_cons_self
  · rcases List.mem_cons.1 (hperm.mem_iff.1 hmem) with rfl | hmem
    · exact hname
    · exact hidentifiers name (List.mem_cons_of_mem _ hmem)

theorem Signature.validate_alone (hs : s.validate = .ok ()) (hname : Text.isIdentifier p.name.toList = true) :
    { s with parameters := [p] }.validate = .ok () := by
  have hfunction := (validate_eq_ok_iff.1 hs).1 s.name List.mem_cons_self
  refine validate_eq_ok_iff.2 ⟨fun name hmem => ?_, List.nodup_singleton p.name⟩
  rcases List.mem_cons.1 hmem with rfl | hmem
  · exact hfunction
  · rw [List.mem_singleton.1 hmem]
    exact hname

/-! ## Each parameter by itself -/

namespace Signature

/-- what the documentation says for a callable with these parameter names -/
def modelFor (names : List String) (s : Signature) : Docstring.Model :=
  (Docstring.extract (s.documentation?.getD "") names).value

theorem model_eq_modelFor (o : Options) (s : Signature) : s.model o = s.modelFor (s.keptNames o) := rfl

theorem descriptionOf?_modelFor {names known : List String} {name : String} (hsub : names ⊆ known)
    (hname : name ∈ names) : (s.modelFor names).descriptionOf? name = (s.modelFor known).descriptionOf? name := by
  have hkeep : names.contains name = true := List.contains_iff_mem.2 hname
  rw [modelFor, Docstring.extract_value_restrict _ hsub, ← modelFor, Docstring.Model.restrict,
    Docstring.Model.descriptionOf?, Entries.lookup_filter hkeep]
  rfl

theorem description_modelFor (o : Options) {names known : List String} (hsub : names ⊆ known) :
    Generator.description o (s.modelFor names) = Generator.description o (s.modelFor known) := by
  rw [modelFor, Docstring.extract_value_restrict _ hsub, ← modelFor, Docstring.Model.restrict, Generator.description,
    Generator.description]

end Signature

namespace Generator

/-- what is said about a parameter in a signature that has no other -/
def ownInfo (g : Generator) (s : Signature) (p : Parameter) : ParameterInfo :=
  g.infoOf (s.modelFor [p.name]) p

theorem infoOf_model (hname : p.name ∈ s.keptNames g.options) : g.infoOf (s.model g.options) p = g.ownInfo s p := by
  have hsub : [p.name] ⊆ s.keptNames g.options := by simpa using hname
  rw [ownInfo, infoOf, infoOf, s.model_eq_modelFor, Signature.descriptionOf?_modelFor hsub (List.mem_singleton_self _)]

/-- a document as it is put together from its parameters -/
theorem documentOf_eq_own (g : Generator) (s : Signature) :
    g.documentOf s = ⟨description g.options (s.modelFor []), (g.kept s.parameters).map (g.ownInfo s)⟩ := by
  have hdescription : description g.options (s.model g.options) = description g.options (s.modelFor []) :=
    (s.description_modelFor g.options (List.nil_subset _)).symm
  have hinfos : (g.kept s.parameters).map (g.infoOf (s.model g.options)) = (g.kept s.parameters).map (g.ownInfo s) := by
    apply List.map_congr_left
    intro p hp
    apply infoOf_model
    rw [← map_kept]
    exact List.mem_map_of_mem hp
  rw [documentOf, hdescription, hinfos]

/-- what is written about each parameter is told by the documentation, whichever the parameters are -/
theorem generate_of_permissive (hg : g.options.Permissive) (parameters : List Parameter)
    (hs : { s with parameters := parameters }.validate = .ok ()) :
    (g.generate { s with parameters := parameters }).run.value =
      .ok ⟨description g.options (s.modelFor []), (g.kept parameters).map (g.ownInfo s)⟩ :=
  generate_eq_ok_iff.2 ⟨hg.accepted hs, (documentOf_eq_own g { s with parameters := parameters }).symm⟩

end Generator

/-! ## One more -/

theorem Generator.kept_insert {before after : List Parameter} (hkept : p.name ∉ g.options.ignoreArgs) :
    g.kept (before ++ p :: after) = g.kept before ++ p :: g.kept after := by
  rw [kept_eq, kept_eq, kept_eq, List.filter_append, List.filter_cons_of_pos (by simpa using hkept)]

namespace Document

/-- The entries of one parameter stand behind those of the names in front. All others are as they were, in order. -/
structure Inserts (front : List String) (own : ParameterInfo) (d d' : Document) : Prop where
  description : d'.description = d.description
  parameters : ∃ before after, before.map ParameterInfo.name = front ∧
    d.parameters = before ++ after ∧ d'.parameters = before ++ own :: after
  properties : ∃ before after, Entries.keys before = front ∧
    d.properties = before ++ after ∧ d'.properties = before ++ (own.name, own.property) :: after
  required : ∃ before after, before.Sublist front ∧ (∀ name ∈ after, name ∉ front) ∧
    d.required = before ++ after ∧
    d'.required = before ++ (if own.isRequired then [own.name] else []) ++ after

theorem inserts_of_parameters (text : String) {before after : List ParameterInfo} {own : ParameterInfo}
    (h : ((before ++ own :: after).map ParameterInfo.name).Nodup) :
    Inserts (before.map ParameterInfo.name) own ⟨text, before ++ after⟩ ⟨text, before ++ own :: after⟩ := by
  have hfewer : ((before ++ after).map ParameterInfo.name).Nodup :=
    h.sublist (((List.sublist_cons_self own after).append_left before).map _)
  refine ⟨rfl, ⟨before, after, rfl, rfl, rfl⟩, ?_, ?_⟩
  · refine ⟨before.map fun q => (q.name, q.property), after.map fun q => (q.name, q.property), ?_, ?_, ?_⟩
    · rw [Entries.keys, List.map_map]
      rfl
    · rw [properties_eq hfewer, List.map_append]
    · rw [properties_eq h, List.map_append, List.map_cons]
  · refine ⟨(before.filter (·.isRequired)).map ParameterInfo.name,
      (after.filter (·.isRequired)).map ParameterInfo.name, List.filter_sublist.map _, ?_, ?_, ?_⟩
    · intro name hname hfront
      rw [List.map_append, List.nodup_append] at hfewer
      exact hfewer.2.2 name hfront name ((List.filter_sublist.map _).subset hname) rfl
    · rw [required, List.filter_append, List.map_append]
    · rw [required, List.filter_append, List.map_append, List.filter_cons, List.append_assoc]
      cases own.isRequired <;> rfl

end Document

namespace Generator

/-- **A parameter's schema does not depend on its neighbours.** For every generator that requires nothing and accepts
every type, every valid signature, and every parameter with an identifier for a name that is new and not ignored, put in
anywhere: the larger signature has a document with the same description, and in its parameters, properties and required
names those of the smaller one have the entries of the new parameter among them, at its place. These entries are the
document of the new parameter alone. -/
theorem generate_insert (g : Generator) (hg : g.options.Permissive) (s : Signature) (hs : s.validate = .ok ())
    (before after : List Parameter) (hsplit : s.parameters = before ++ after) (p : Parameter)
    (hname : Text.isIdentifier p.name.toList = true) (hnew : p.name ∉ s.parameterNames)
    (hkept : p.name ∉ g.options.ignoreArgs) :
    ∃ d d' own, (g.generate s).run.value = .ok d ∧
      (g.generate { s with parameters := before ++ p :: after }).run.value = .ok d' ∧
      (g.generate { s with parameters := [p] }).run.value = .ok ⟨d.description, [own]⟩ ∧ own.name = p.name ∧
      d.Inserts ((g.kept before).map Parameter.name) own d' := by
  have hlarger := Signature.validate_insert hs hsplit hname hnew
  have hd := generate_of_permissive hg s.parameters hs
  have hd' := generate_of_permissive hg (before ++ p :: after) hlarger
  have hown := generate_of_permissive hg [p] (Signature.validate_alone hs hname)
  have hfewer : g.kept s.parameters = g.kept before ++ g.kept after := by
    rw [hsplit, kept, List.filter_append]
    rfl
  have halone : g.kept [p] = [p] := @kept_insert g p [] [] hkept
  rw [hfewer, List.map_append] at hd
  rw [kept_insert hkept, List.map_append, List.map_cons] at hd'
  rw [halone, List.map_singleton] at hown
  have hdistinct : (((g.kept before).map (g.ownInfo s) ++ g.ownInfo s p :: (g.kept after).map (g.ownInfo s)).map
      ParameterInfo.name).Nodup := by
    rw [← List.map_cons, ← List.map_append, ← kept_insert hkept, List.map_map]
    exact (Signature.validate_eq_ok_iff.1 hlarger).2.sublist (List.filter_sublist.map _)
  have hinserts := Document.inserts_of_parameters (description g.options (s.modelFor [])) hdistinct
  rw [List.map_map] at hinserts
  exact ⟨_, _, g.ownInfo s p, hd, hd', hown, rfl, hinserts⟩

/-- a list whose elements are its own type again -/
def chains : Generator :=
  ⟨{ Options.lenient with ignoreArgs := ["ctx"] }, ⟨[("Chain", .array (some (.named "Chain")))]⟩⟩

/-- a signature whose documentation speaks of one parameter more -/
def link : Signature :=
  ⟨"link", some "Link them.\n\n:param b: Second.\n:type a: chain\n:param a: First.",
    [⟨"a", some (.named "Chain"), false, none⟩, ⟨"ctx", none, false, none⟩, ⟨"c", none, true, none⟩]⟩

/-- The new parameter stands behind an ignored one, and is of the type that its neighbour is of. -/
theorem generate_insert_link :
    chains.options.Permissive ∧ link.validate = .ok () ∧ Text.isIdentifier "b".toList = true ∧
    "b" ∉ link.parameterNames ∧ "b" ∉ chains.options.ignoreArgs ∧
    ∃ d d' own, (chains.generate link).run.value = .ok d ∧
      (chains.generate { link with parameters := [⟨"a", some (.named "Chain"), false, none⟩, ⟨"ctx", none, false, none⟩,
        ⟨"b", some (.named "Chain"), false, none⟩, ⟨"c", none, true, none⟩] }).run.value = .ok d' ∧
      (chains.generate { link with parameters := [⟨"b", some (.named "Chain"), false, none⟩] }).run.value =
        .ok ⟨d.description, [own]⟩ ∧ own.name = "b" ∧ d.Inserts ["a"] own d' := by
  have hpermissive : chains.options.Permissive := ⟨rfl, rfl, rfl, rfl⟩
  have hvalid : link.validate = .ok () := by decide +kernel
  have hname : Text.isIdentifier "b".toList = true := by decide +kernel
  have hnew : "b" ∉ link.parameterNames := by decide
  have hkept : "b" ∉ chains.options.ignoreArgs := by decide
  have hfront : (chains.kept [⟨"a", some (.named "Chain"), false, none⟩, ⟨"ctx", none, false, none⟩]).map Parameter.name =
      ["a"] := by decide
  obtain ⟨d, d', own, hd, hd', hown, hsame, hinserts⟩ := generate_insert chains hpermissive link hvalid
    [⟨"a", some (.named "Chain"), false, none⟩, ⟨"ctx", none, false, none⟩] [⟨"c", none, true, none⟩] rfl
    ⟨"b", some (.named "Chain"), false, none⟩ hname hnew hkept
  rw [hfront] at hinserts
  rw [List.cons_append, List.cons_append, List.nil_append] at hd'
  exact ⟨hpermissive, hvalid, hname, hnew, hkept, d, d', own, hd, hd', hown, hsame, hinserts⟩

end Generator

end ToolSchema
