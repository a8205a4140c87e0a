/-
Generation that succeeds.

`Signature.Accepted` collects what the options ask of a signature, and `documentOf` is the document of a signature as if
nothing was asked: the checks stand beside the building, and hand nothing on to it.
- `failure?_eq_none_iff`: nothing fails just for the accepted signatures.
- `generate_eq_ok_iff`: just these have a document, and it is `documentOf`.
-/
import ToolSchema.Proofs.Generate.Document

namespace ToolSchema

variable {o : Options} {g : Generator} {s : Signature} {m : Docstring.Model} {d : Document}

/-! ## Accepted signatures -/

/-- all that the options ask of a signature -/
structure Signature.Accepted (o : Options) (s : Signature) : Prop where
  identifiers : ∀ name ∈ s.name :: s.parameterNames, Text.isIdentifier name.toList = true
  distinct : s.parameterNames.Nodup
  documented : o.requiresDocstring = true → s.documentation?.isSome = true
  summarized : o.requireShortDescription = true → (s.model o).summary ≠ ""
  mentioned : o.requireAllParamsInDoc = true → s.undocumented o = []
  described : o.requireDescriptionsForParams = true → s.undescribed o = []
  typed : o.allowBareGenericTypes = false → s.bareGeneric? o = none

/-- the reasons to fail, one after the other, are the conditions that are not met -/
theorem failure?_eq_none_iff : s.failure? o = none ↔ s.Accepted o := by
  have hdocumented : ((s.docstring.all fun text => Text.allBlank text.toList) = true ∧
      (o.requireAllParamsInDoc = true ∨ o.requireDescriptionsForParams = true ∨ o.requireShortDescription = true)) ↔
        ¬ (o.requiresDocstring = true → s.documentation?.isSome = true) := by
    rw [← isNone_documentation?, ← requiresDocstring_iff]
    cases s.documentation? <;> cases o.requiresDocstring <;> simp
  unfold Signature.failure?
  rw [if_congr hdocumented rfl rfl]
  constructor
  · intro h
    split_ifs at h with hbad hdistinct hdocumented hsummary hmentioned hdescribed hallow
    all_goals
      push Not at hbad hsummary hmentioned hdescribed
      refine ⟨hbad, hdistinct, hdocumented, hsummary, hmentioned, hdescribed, fun hbare => ?_⟩
    · rw [hallow] at hbare
      cases hbare
    · simpa using h
  · intro h
    have hbad : ¬ ∃ name ∈ s.name :: s.parameterNames, ¬ Text.isIdentifier name.toList = true := by
      push Not
      exact h.identifiers
    rw [if_neg hbad, if_neg (not_not.2 h.distinct), if_neg (not_not.2 h.documented),
      if_neg (fun hshort => h.summarized hshort.1 hshort.2), if_neg (fun hall => hall.2 (h.mentioned hall.1)),
      if_neg (fun htexts => htexts.2 (h.described htexts.1))]
    split_ifs with hallow
    · rfl
    · rw [h.typed (by simpa using hallow)]
      rfl

/-! ## The document -/

namespace Generator

/-- what is written about a signature when nothing fails -/
def documentOf (g : Generator) (s : Signature) : Document :=
  ⟨description g.options (s.model g.options), (g.kept s.parameters).map (g.infoOf (s.model g.options))⟩

theorem build_eq {parameters : List Parameter} (h : (g.build parameters m).run.value = .ok d) :
    d = ⟨description g.options m, (g.kept parameters).map (g.infoOf m)⟩ := by
  obtain ⟨u, hcheck, h⟩ := Outcome.exists_of_bind_ok h
  obtain ⟨infos, hinfos, h⟩ := Outcome.exists_of_bind_ok h
  rw [← parameterInfos_eq_map hinfos]
  cases h
  rfl

theorem eq_documentOf (h : (g.generate s).run.value = .ok d) : d = g.documentOf s := by
  unfold generate at h
  rw [map_kept] at h
  obtain ⟨u, hvalidate, hread⟩ := Outcome.exists_of_bind_ok h
  cases hdocumentation : s.documentation?.isNone && g.options.requiresDocstring with
  | true =>
    simp only [hdocumentation, if_true] at hread
    cases hread
  | false =>
    simp only [hdocumentation, Bool.false_eq_true, if_false] at hread
    obtain ⟨m, hmodel, hcheck⟩ := Outcome.exists_of_bind_ok hread
    obtain ⟨u, hchecked, hbuild⟩ := Outcome.exists_of_bind_ok hcheck
    obtain ⟨built, hbuilt, hreport⟩ := Outcome.exists_of_bind_ok hbuild
    obtain ⟨u, hreported, hend⟩ := Outcome.exists_of_bind_ok hreport
    have hmodel : s.model g.options = m := Except.ok.inj hmodel
    have hwritten : built = d := Except.ok.inj hend
    rw [← hwritten, documentOf, hmodel]
    exact build_eq hbuilt

/-- **Just the accepted signatures have a document**, and the checks leave no trace in it. -/
theorem generate_eq_ok_iff : (g.generate s).run.value = .ok d ↔ s.Accepted g.options ∧ d = g.documentOf s := by
  rw [← failure?_eq_none_iff, ← failure?_generate, Outcome.failure?]
  constructor
  · intro h
    refine ⟨?_, eq_documentOf h⟩
    rw [h]
    rfl
  · rintro ⟨hnone, rfl⟩
    obtain ⟨written, hwritten⟩ := exists_ok_of_failureOf? hnone
    rw [hwritten, eq_documentOf hwritten]

end Generator

end ToolSchema
