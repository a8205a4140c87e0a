/-
Generation and the parameters that are ignored.

The names to ignore are looked up in three places: where the names for the documentation are put together, in the checks
of the documentation, and where the parameters are built. All three see the same parameters, and no other step of a
generation looks at a parameter after the signature has been found valid.
- `validate_eq_ok_iff`: when a signature is valid. So it stays valid when parameters are taken out (`validate_without`).
- `generate_congr`: valid signatures with the same name, documentation and kept parameters have the same outcome.
- `generate_eq_of_without_eq`: so the ignored parameters of two signatures may differ in any way.
- `generate_without_ignored`: they may as well not be there.
-/
import ToolSchema.Proofs.Generate.Failure

namespace ToolSchema

/-! ## Signatures with fewer parameters -/

namespace Signature

/-- the signature as if it had never had the parameters of these names -/
def without (ignored : List String) (s : Signature) : Signature :=
  { s with parameters := s.parameters.filter fun p => p.name ∉ ignored }

variable {s : Signature} {ignored : List String}

theorem parameterNames_without_sublist : (s.without ignored).parameterNames.Sublist s.parameterNames :=
  List.filter_sublist.map _

theorem validate_eq_ok_iff :
    s.validate = .ok () ↔
      (∀ name ∈ s.name :: s.parameterNames, Text.isIdentifier name.toList = true) ∧ s.parameterNames.Nodup := by
  have hfailure := failureOf?_validate s
  constructor
  · intro h
    rw [h, failureOf?] at hfailure
    by_cases hbad : ∃ name ∈ s.name :: s.parameterNames, ¬ Text.isIdentifier name.toList = true
    · rw [if_pos hbad] at hfailure
      cases hfailure
    · rw [if_neg hbad] at hfailure
      push Not at hbad
      refine ⟨hbad, ?_⟩
      by_contra hrepeat
      rw [if_pos hrepeat] at hfailure
      cases hfailure
  · rintro ⟨hnames, hnodup⟩
    have hgood : ¬ ∃ name ∈ s.name :: s.parameterNames, ¬ Text.isIdentifier name.toList = true := by
      push Not
      exact hnames
    rw [if_neg hgood, if_neg (not_not.2 hnodup)] at hfailure
    obtain ⟨u, hu⟩ := exists_ok_of_failureOf? hfailure
    exact hu

theorem validate_without (h : s.validate = .ok ()) : (s.without ignored).validate = .ok () := by
  rw [validate_eq_ok_iff] at h ⊢
  obtain ⟨hnames, hnodup⟩ := h
  refine ⟨fun name hmem => hnames name ?_, hnodup.sublist parameterNames_without_sublist⟩
  rcases List.mem_cons.1 hmem with rfl | hparameter
  · exact List.mem_cons_self
  · exact List.mem_cons_of_mem _ (parameterNames_without_sublist.subset hparameter)

theorem checkDistinct_of_validate (h : s.validate = .ok ()) : checkDistinct s.parameters = .ok () := by
  have hnodup : (s.parameters.map Parameter.name).Nodup := (validate_eq_ok_iff.1 h).2
  have hfailure := failureOf?_checkDistinct s.parameters
  rw [if_neg (not_not.2 hnodup)] at hfailure
  obtain ⟨u, hu⟩ := exists_ok_of_failureOf? hfailure
  exact hu

end Signature

/-! ## Generation -/

namespace Generator

variable {g : Generator} {s s' : Signature}

theorem kept_without (g : Generator) (s : Signature) :
    g.kept (s.without g.options.ignoreArgs).parameters = g.kept s.parameters := by
  rw [kept_eq, kept_eq, Signature.without, List.filter_filter]
  simp

/-- repeats are looked for among all parameters, and there are none -/
theorem build_congr (hs : s.validate = .ok ()) (hs' : s'.validate = .ok ())
    (hkept : g.kept s'.parameters = g.kept s.parameters) (m : Docstring.Model) :
    g.build s'.parameters m = g.build s.parameters m := by
  unfold build
  rw [Signature.checkDistinct_of_validate hs, Signature.checkDistinct_of_validate hs', hkept]

/-- What generation reads of a valid signature is its name, its documentation and the parameters that are kept. -/
theorem generate_congr (hs : s.validate = .ok ()) (hs' : s'.validate = .ok ()) (hname : s'.name = s.name)
    (hdocstring : s'.docstring = s.docstring) (hkept : g.kept s'.parameters = g.kept s.parameters) :
    g.generate s' = g.generate s := by
  have hdocumentation : s'.documentation? = s.documentation? := by
    rw [Signature.documentation?, Signature.documentation?, hdocstring]
  have hbuild : g.build s'.parameters = g.build s.parameters := by
    funext m
    exact build_congr hs hs' hkept m
  unfold generate
  rw [hs, hs', hname, hdocumentation, hkept, hbuild]

/-- **Ignored parameters do not interfere.** Two valid signatures that differ in ignored parameters only have the same
outcome. -/
theorem generate_eq_of_without_eq (hs : s.validate = .ok ()) (hs' : s'.validate = .ok ())
    (h : s'.without g.options.ignoreArgs = s.without g.options.ignoreArgs) : g.generate s' = g.generate s := by
  have hname : s'.name = s.name := by
    have hsame := congrArg Signature.name h
    exact hsame
  have hdocstring : s'.docstring = s.docstring := by
    have hsame := congrArg Signature.docstring h
    exact hsame
  have hkept : g.kept s'.parameters = g.kept s.parameters := by
    rw [← kept_without g s', h, kept_without]
  exact generate_congr hs hs' hname hdocstring hkept

/-- **Ignored parameters cannot influence the result.** A valid signature stays valid without its ignored parameters, and
generation has the same outcome for it: the same document or the same error, and the same diagnostics on the way. -/
theorem generate_without_ignored (g : Generator) (s : Signature) (h : s.validate = .ok ()) :
    (s.without g.options.ignoreArgs).validate = .ok () ∧
      g.generate (s.without g.options.ignoreArgs) = g.generate s := by
  have hvalid : (s.without g.options.ignoreArgs).validate = .ok () := Signature.validate_without h
  exact ⟨hvalid, generate_congr h hvalid rfl rfl (kept_without g s)⟩

/-- options that ask for everything -/
def demanding : Generator :=
  ⟨{ Options.strict with ignoreArgs := ["ctx", "self"], allowBareGenericTypes := false }, .empty⟩

/-- what would be refused is ignored: a bare container, and parameters without a text of their own -/
def search : Signature :=
  ⟨"search", some "Search.\n\n:param ctx:\n:param query: The query.",
    [⟨"self", none, false, none⟩, ⟨"ctx", some (.array none), true, some .null⟩,
      ⟨"query", some .string, false, none⟩]⟩

theorem generate_without_ignored_search :
    search.validate = .ok () ∧
    (search.without ["ctx", "self"]).parameterNames = ["query"] ∧
    demanding.generate (search.without ["ctx", "self"]) = demanding.generate search ∧
    ∃ d, (demanding.generate search).run.value = .ok d ∧ Entries.keys d.properties = ["query"] := by
  have hvalid : search.validate = .ok () := by decide +kernel
  have hsame := (generate_without_ignored demanding search hvalid).2
  refine ⟨hvalid, by decide +kernel, hsame, ?_⟩
  have hkeys : ((demanding.generate search).run.value.toOption.map fun d => Entries.keys d.properties) =
      some ["query"] := by
    rw [← hsame]
    decide +kernel
  obtain ⟨d, hd, hquery⟩ := Option.map_eq_some_iff.1 hkeys
  cases hvalue : (demanding.generate search).run.value with
  | error e =>
    rw [hvalue] at hd
    cases hd
  | ok document =>
    rw [hvalue] at hd
    cases hd
    exact ⟨d, rfl, hquery⟩

end Generator

end ToolSchema
