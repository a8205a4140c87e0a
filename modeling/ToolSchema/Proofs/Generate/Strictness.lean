/-
What strict options do: reject, and vouch for the documents they let through.

The requirements of the options are looked at by the checks only. So whoever asks for less gets the same document
(`generate_of_stricter`). With all requirements on the documentation, what the checks have seen is what is written:
- `description_ne_empty`: whichever of the two is chosen, there is text in the summary and in the full description.
- `Accepted.exists_description`: every parameter that is kept has a text.
- `generate_documented`: so the document has a description, and each of its properties too.
-/
import ToolSchema.Proofs.Docstring.WellFormed
import ToolSchema.Proofs.Generate.Success

namespace ToolSchema

variable {r : Registry} {g : Generator} {o strict weak : Options} {s : Signature} {d : Document}

/-! ## Stricter options -/

/-- the same document is asked for, and whatever the second options refuse, the first refuse as well -/
structure Options.AtLeastAsStrict (strict weak : Options) : Prop where
  ignoreArgs : strict.ignoreArgs = weak.ignoreArgs
  descriptionMode : strict.descriptionMode = weak.descriptionMode
  embedNullDefaults : strict.embedNullDefaults = weak.embedNullDefaults
  allParams : weak.requireAllParamsInDoc = true → strict.requireAllParamsInDoc = true
  descriptions : weak.requireDescriptionsForParams = true → strict.requireDescriptionsForParams = true
  shortDescription : weak.requireShortDescription = true → strict.requireShortDescription = true
  bareGenericTypes : weak.allowBareGenericTypes = false → strict.allowBareGenericTypes = false

namespace Options.AtLeastAsStrict

theorem requiresDocstring (h : strict.AtLeastAsStrict weak) (hweak : weak.requiresDocstring = true) :
    strict.requiresDocstring = true := by
  rw [requiresDocstring_iff] at hweak ⊢
  exact hweak.imp h.allParams (Or.imp h.descriptions h.shortDescription)

theorem model_eq (h : strict.AtLeastAsStrict weak) (s : Signature) : s.model weak = s.model strict := by
  rw [Signature.model, Signature.model, Signature.keptNames, Signature.keptNames, h.ignoreArgs]

theorem accepted (h : strict.AtLeastAsStrict weak) (hs : s.Accepted strict) : s.Accepted weak where
  identifiers := hs.identifiers
  distinct := hs.distinct
  documented := fun hweak => hs.documented (h.requiresDocstring hweak)
  summarized := by
    intro hweak
    rw [h.model_eq]
    exact hs.summarized (h.shortDescription hweak)
  mentioned := by
    intro hweak
    rw [Signature.undocumented, Signature.keptNames, h.model_eq, ← h.ignoreArgs]
    exact hs.mentioned (h.allParams hweak)
  described := by
    intro hweak
    rw [Signature.undescribed, Signature.keptNames, h.model_eq, ← h.ignoreArgs]
    exact hs.described (h.descriptions hweak)
  typed := by
    intro hweak
    rw [Signature.bareGeneric?, ← h.ignoreArgs]
    exact hs.typed (h.bareGenericTypes hweak)

/-- what is written is read off the options that are the same -/
theorem documentOf_eq (h : strict.AtLeastAsStrict weak) (r : Registry) (s : Signature) :
    Generator.documentOf ⟨weak, r⟩ s = Generator.documentOf ⟨strict, r⟩ s := by
  have hdescription : ∀ m, Generator.description weak m = Generator.description strict m := by
    intro m
    rw [Generator.description, Generator.description, h.descriptionMode]
  have hinfo : ∀ m, Generator.infoOf ⟨weak, r⟩ m = Generator.infoOf ⟨strict, r⟩ m := by
    intro m
    funext p
    have hdefault : Generator.embedded weak p = Generator.embedded strict p := by
      rw [Generator.embedded, Generator.embedded, h.embedNullDefaults]
    simp only [Generator.infoOf, Generator.resolved, hdefault]
  simp only [Generator.documentOf, Generator.kept_eq, h.model_eq, hdescription, hinfo, h.ignoreArgs]

end Options.AtLeastAsStrict

namespace Generator

/-- **Strictness only rejects.** For every registry and signature, and any two options that agree on the parameters to
ignore, on the description and on null defaults, and of which the first require all that the second do: what has a
document with the first has the same document with the second. -/
theorem generate_of_stricter (r : Registry) (s : Signature) (h : strict.AtLeastAsStrict weak) (d : Document)
    (hd : (generate ⟨strict, r⟩ s).run.value = .ok d) : (generate ⟨weak, r⟩ s).run.value = .ok d := by
  obtain ⟨haccepted, rfl⟩ := generate_eq_ok_iff.1 hd
  exact generate_eq_ok_iff.2 ⟨h.accepted haccepted, (h.documentOf_eq r s).symm⟩

/-- an ignored parameter that would be refused, a type that is known by its name, and a null default -/
def booking : Signature :=
  ⟨"book", some "Book a table.\n\nAt any place.\n\nArgs:\n    place (Place): Where.\n    seats: How many.",
    [⟨"ctx", some (.array none), false, none⟩, ⟨"place", some (.named "Place"), false, none⟩,
      ⟨"seats", some (.optional .integer), true, some .null⟩]⟩

/-- nothing is required, and all is written that may be -/
def verbose : Options :=
  { Options.lenient with ignoreArgs := ["ctx"], descriptionMode := .full, embedNullDefaults := true }

/-- the same document, and all is required -/
def verboseStrict : Options :=
  { verbose with
    requireAllParamsInDoc := true, requireDescriptionsForParams := true, requireShortDescription := true,
    allowBareGenericTypes := false }

def places : Registry := ⟨[("Place", .record ⟨none, [⟨"city", .string, true⟩], true⟩)]⟩

theorem generate_booking :
    (generate ⟨verboseStrict, places⟩ booking).run.value = .ok (documentOf ⟨verboseStrict, places⟩ booking) :=
  generate_eq_ok_iff.2 ⟨failure?_eq_none_iff.1 (by decide +kernel), rfl⟩

theorem generate_of_stricter_booking :
    verboseStrict.AtLeastAsStrict verbose ∧
    ∃ d, (generate ⟨verboseStrict, places⟩ booking).run.value = .ok d ∧
      (generate ⟨verbose, places⟩ booking).run.value = .ok d ∧
      d.description = "Book a table.\n\nAt any place." ∧ Entries.keys d.properties = ["place", "seats"] := by
  have hstricter : verboseStrict.AtLeastAsStrict verbose :=
    ⟨rfl, rfl, rfl, fun _ => rfl, fun _ => rfl, fun _ => rfl, fun _ => rfl⟩
  refine ⟨hstricter, _, generate_booking, generate_of_stricter places booking hstricter _ generate_booking, ?_, ?_⟩
  · decide +kernel
  · decide +kernel

end Generator

/-! ## Documents that were required to say all -/

namespace Signature

theorem model_wellFormed (o : Options) (s : Signature) :
    (s.model o).WellFormed (s.documentation?.getD "").toList (s.keptNames o) := by
  rcases Docstring.extract_cases (s.documentation?.getD "") (s.keptNames o) with ⟨style, hparse, -⟩ | hplain
  · exact Docstring.parse?_wellFormed hparse
  · rw [model, hplain]
    exact Docstring.plain_wellFormed _ _

/-- every parameter that is kept is mentioned, and not without a text -/
theorem Accepted.exists_description {name : String} (h : s.Accepted o) (hmentioned : o.requireAllParamsInDoc = true)
    (hdescribed : o.requireDescriptionsForParams = true) (hname : name ∈ s.keptNames o) :
    ∃ text, (s.model o).descriptionOf? name = some text ∧ text ≠ "" := by
  have hkey := List.filter_eq_nil_iff.1 (h.mentioned hmentioned) name hname
  have htext := List.filter_eq_nil_iff.1 (h.described hdescribed) name hname
  simp only [decide_eq_true_eq, not_not] at hkey
  simp only [decide_eq_true_eq, hkey, true_and, not_or] at htext
  obtain ⟨text, hsome⟩ := Option.ne_none_iff_exists'.1 htext.1
  refine ⟨text, hsome, ?_⟩
  rintro rfl
  exact htext.2 hsome

end Signature

namespace Generator

/-- the description is chosen from two texts that are not blank -/
theorem description_ne_empty (h : s.Accepted o) (hsummary : o.requireShortDescription = true) :
    description o (s.model o) ≠ "" := by
  obtain ⟨hshort, hfull⟩ := (s.model_wellFormed o).allBlank_eq_false (h.summarized hsummary)
  have htrim : ∀ cs, Text.allBlank cs = false → String.ofList (Text.trim cs) ≠ "" := by
    intro cs hcs hempty
    rw [← String.toList_inj, String.toList_ofList, String.toList_empty] at hempty
    rw [← Text.allBlank_trim, hempty] at hcs
    cases hcs
  rw [description]
  cases o.descriptionMode with
  | summary => exact htrim _ hshort
  | full => exact htrim _ hfull

/-- **What is accepted under strict options is fully documented.** For every registry and signature, and all options
that require a summary, every parameter in the documentation and a text for each: if there is a document, its
description is not empty, and each of its properties has a description that is not empty. -/
theorem generate_documented (g : Generator) (s : Signature) (hmentioned : g.options.requireAllParamsInDoc = true)
    (hdescribed : g.options.requireDescriptionsForParams = true) (hsummary : g.options.requireShortDescription = true)
    (d : Document) (hd : (g.generate s).run.value = .ok d) :
    d.description ≠ "" ∧ ∀ e ∈ d.properties, ∃ node text,
      e.2 = .object node ∧ node.lookup "description" = some (.string text) ∧ text ≠ "" := by
  obtain ⟨haccepted, rfl⟩ := generate_eq_ok_iff.1 hd
  refine ⟨description_ne_empty haccepted hsummary, fun e he => ?_⟩
  have hnames : (g.documentOf s).parameters.map ParameterInfo.name = s.keptNames g.options := by
    rw [← map_kept, documentOf, List.map_map]
    rfl
  have hdistinct : ((g.documentOf s).parameters.map ParameterInfo.name).Nodup := by
    rw [hnames, Signature.keptNames]
    exact haccepted.distinct.sublist List.filter_sublist
  rw [Document.properties_eq hdistinct] at he
  obtain ⟨info, hinfo, rfl⟩ := List.mem_map.1 he
  obtain ⟨p, hp, rfl⟩ := List.mem_map.1 hinfo
  have hname : p.name ∈ s.keptNames g.options := by
    rw [← map_kept]
    exact List.mem_map_of_mem hp
  obtain ⟨text, htext, hfilled⟩ := haccepted.exists_description hmentioned hdescribed hname
  refine ⟨_, text, ParameterInfo.property_eq _, ?_, hfilled⟩
  exact ((says_infoOf g (s.model g.options) p).description _).2 ⟨text, htext, hfilled, rfl⟩

theorem generate_documented_booking :
    ∃ d, (generate ⟨verboseStrict, places⟩ booking).run.value = .ok d ∧ d.properties.length = 2 ∧
      d.description ≠ "" ∧ ∀ e ∈ d.properties, ∃ node text,
        e.2 = .object node ∧ node.lookup "description" = some (.string text) ∧ text ≠ "" :=
  ⟨_, generate_booking, by decide +kernel,
    generate_documented ⟨verboseStrict, places⟩ booking rfl rfl rfl _ generate_booking⟩

end Generator

end ToolSchema
