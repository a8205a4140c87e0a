/-
The failure of a signature.

The checks of a signature are spread: `validate` looks at all names, `generate` and `checkModel` at the documentation of
the parameters that are not ignored, `build` at their types, one parameter after the other. `Signature.failure?` puts
them in one order, told by the signature and the options alone.
- `Outcome.failure?_bind`: of two steps, the first failure counts.
- `failureOf?_validate`, `failureOf?_checkModel`, `failure?_build`: what each of the steps fails with.
- `Generator.failure?_generate`: the whole generation fails as `Signature.failure?` says.
- `Generator.generate_fails_first`: so every signature has either a document or the first failure that applies.
-/
import Mathlib.Data.List.Nodup
import ToolSchema.Generate

namespace ToolSchema

/-! ## Failures -/

/-- the kind of an error, without its wording -/
inductive Failure where
  | inspection
  | invalidSignature
  | noDocstring (function : String)
  | noShortDescription (function : String)
  | notDocumented (parameters : List String)
  | missingDescription (parameters : List String)
  | bareGeneric (parameter : String)
  deriving DecidableEq

def SchemaError.failure : SchemaError → Failure
  | emptyName => .inspection
  | invalidName _ => .inspection
  | invalidParameter .. => .inspection
  | duplicateParameter _ => .invalidSignature
  | noDocstring function => .noDocstring function
  | noShortDescription function => .noShortDescription function
  | notDocumented parameters => .notDocumented parameters
  | missingDescription parameters => .missingDescription parameters
  | bareGeneric parameter => .bareGeneric parameter

/-- how a check fails; nothing if it passes -/
def failureOf? {α : Type} : Except SchemaError α → Option Failure
  | .ok _ => none
  | .error e => some e.failure

/-- how an outcome fails; nothing if there is a result -/
def Outcome.failure? {α : Type} (x : Outcome α) : Option Failure :=
  failureOf? x.run.value

section

variable {α : Type} {x : Except SchemaError α}

theorem exists_ok_of_failureOf? (h : failureOf? x = none) : ∃ a, x = .ok a := by
  cases x with
  | ok a => exact ⟨a, rfl⟩
  | error e => cases h

theorem exists_error_of_failureOf? {f : Failure} (h : failureOf? x = some f) : ∃ e, x = .error e ∧ e.failure = f := by
  cases x with
  | ok a => cases h
  | error e => exact ⟨e, rfl, Option.some.inj h⟩

end

namespace Signature

variable (o : Options) (s : Signature)

/-- the names of the parameters that are not ignored, in order of declaration -/
def keptNames : List String :=
  s.parameterNames.filter (· ∉ o.ignoreArgs)

/-- what the documentation says about them -/
def model : Docstring.Model :=
  (Docstring.extract (s.documentation?.getD "") (s.keptNames o)).value

/-- the parameters that the documentation does not mention -/
def undocumented : List String :=
  (s.keptNames o).filter fun name => name ∉ Entries.keys (s.model o).params

/-- the parameters that the documentation mentions without any text -/
def undescribed : List String :=
  (s.keptNames o).filter fun name =>
    name ∈ Entries.keys (s.model o).params ∧
      ((s.model o).descriptionOf? name = none ∨ (s.model o).descriptionOf? name = some "")

/-- the first parameter in whose type a container has no element type -/
def bareGeneric? : Option Parameter :=
  s.parameters.find? fun p => p.name ∉ o.ignoreArgs ∧ p.hint.any Hint.hasBareGeneric

/-- Why there is no document for a signature: the first of these reasons that applies. -/
def failure? : Option Failure :=
  if ∃ name ∈ s.name :: s.parameterNames, ¬ Text.isIdentifier name.toList then some .inspection
  else if ¬ s.parameterNames.Nodup then some .invalidSignature
  else if (s.docstring.all fun text => Text.allBlank text.toList) ∧
      (o.requireAllParamsInDoc ∨ o.requireDescriptionsForParams ∨ o.requireShortDescription) then
    some (.noDocstring s.name)
  else if o.requireShortDescription ∧ (s.model o).summary = "" then some (.noShortDescription s.name)
  else if o.requireAllParamsInDoc ∧ s.undocumented o ≠ [] then some (.notDocumented (s.undocumented o))
  else if o.requireDescriptionsForParams ∧ s.undescribed o ≠ [] then some (.missingDescription (s.undescribed o))
  else if o.allowBareGenericTypes then none
  else (s.bareGeneric? o).map fun p => .bareGeneric p.name

end Signature

variable {α β : Type}

/-! ## One step after the other -/

theorem failureOf?_bind {check : Except SchemaError Unit} {next : Unit → Except SchemaError α} :
    failureOf? (check >>= next) = (failureOf? check).or (failureOf? (next ())) := by
  cases check with
  | ok u => rfl
  | error e => rfl

theorem Outcome.failure?_bind {x : Outcome α} {f : α → Outcome β} {rest : Option Failure}
    (h : ∀ a, x.run.value = .ok a → (f a).failure? = rest) : (x >>= f).failure? = x.failure?.or rest := by
  rw [failure?, failure?, value_bind]
  cases hx : x.run.value with
  | ok a => exact h a hx
  | error e => rfl

/-- what cannot fail adds nothing -/
theorem Outcome.failure?_bind_of_none {x : Outcome α} {f : α → Outcome β} (h : ∀ a, (f a).failure? = none) :
    (x >>= f).failure? = x.failure? :=
  calc (x >>= f).failure?
    _ = x.failure?.or none := failure?_bind fun a _ => h a
    _ = x.failure? := Option.or_none

/-- a check, and what follows if it passes -/
theorem Outcome.failure?_check_bind (check : Except SchemaError Unit) (f : Unit → Outcome α) :
    (ofExcept check >>= f).failure? = (failureOf? check).or (f ()).failure? :=
  calc (ofExcept check >>= f).failure?
    _ = (ofExcept check).failure?.or (f ()).failure? := failure?_bind fun _ _ => rfl
    _ = (failureOf? check).or (f ()).failure? := rfl

theorem Outcome.failure?_lift_bind (t : Traced α) (f : α → Outcome β) :
    (ExceptT.lift t >>= f : Outcome β).failure? = (f t.value).failure? := by
  have hvalue : ∀ a, (ExceptT.lift t : Outcome α).run.value = .ok a → (f a).failure? = (f t.value).failure? := by
    intro a ha
    cases ha
    rfl
  rw [failure?_bind hvalue]
  exact Option.none_or

theorem ite_or {c : Prop} [Decidable c] {a : α} {x y : Option α} :
    (if c then some a else x).or y = if c then some a else x.or y := by
  by_cases h : c
  · rw [if_pos h, if_pos h, Option.some_or]
  · rw [if_neg h, if_neg h]

/-! ## Names -/

theorem firstRepeat?_eq_none_iff {before names : List String} :
    firstRepeat? before names = none ↔ names.Nodup ∧ ∀ name ∈ names, name ∉ before := by
  induction names generalizing before with
  | nil => simp [firstRepeat?]
  | cons name rest ih =>
    rw [firstRepeat?]
    by_cases h : name ∈ before
    · rw [if_pos h]
      simp [h]
    · rw [if_neg h, ih, List.nodup_cons, List.forall_mem_cons]
      constructor
      · rintro ⟨hnodup, hnew⟩
        refine ⟨⟨fun hmem => hnew name hmem List.mem_cons_self, hnodup⟩, h, fun n hn hbefore => ?_⟩
        exact hnew n hn (List.mem_cons_of_mem name hbefore)
      · rintro ⟨⟨hname, hnodup⟩, -, hrest⟩
        refine ⟨hnodup, fun n hn hcons => ?_⟩
        rcases List.mem_cons.1 hcons with rfl | hbefore
        · exact hname hn
        · exact hrest n hn hbefore

theorem failureOf?_checkDistinct (parameters : List Parameter) :
    failureOf? (checkDistinct parameters) =
      if ¬ (parameters.map Parameter.name).Nodup then some .invalidSignature else none := by
  have hiff := @firstRepeat?_eq_none_iff [] (parameters.map Parameter.name)
  rw [checkDistinct]
  cases hrepeat : firstRepeat? [] (parameters.map Parameter.name) with
  | none =>
    rw [if_neg (not_not.2 (hiff.1 hrepeat).1)]
    rfl
  | some name =>
    have hnot : ¬ (parameters.map Parameter.name).Nodup := by
      intro hnodup
      rw [hiff.2 ⟨hnodup, fun _ _ => List.not_mem_nil⟩] at hrepeat
      cases hrepeat
    rw [if_pos hnot]
    rfl

section

variable {s : Signature}

theorem isEmpty_of_isIdentifier {name : String} (h : Text.isIdentifier name.toList = true) : name.isEmpty = false := by
  by_contra hempty
  rw [Bool.not_eq_false, String.isEmpty_iff] at hempty
  rw [hempty] at h
  cases h

/-- repeats are looked for only after all names -/
theorem validate_of_identifiers (h : ∀ name ∈ s.name :: s.parameterNames, Text.isIdentifier name.toList = true) :
    s.validate = checkDistinct s.parameters := by
  obtain ⟨hname, hparameters⟩ := List.forall_mem_cons.1 h
  have hfind : s.parameterNames.find? (fun name => !Text.isIdentifier name.toList) = none := by
    rw [List.find?_eq_none]
    intro name hmem
    simp [hparameters name hmem]
  rw [Signature.validate, isEmpty_of_isIdentifier hname, hname, hfind]
  rfl

theorem failureOf?_validate_of_bad (h : ∃ name ∈ s.name :: s.parameterNames, ¬ Text.isIdentifier name.toList = true) :
    failureOf? s.validate = some .inspection := by
  rw [Signature.validate]
  by_cases hname : Text.isIdentifier s.name.toList = true
  · obtain ⟨name, hmem, hbad⟩ := h
    rcases List.mem_cons.1 hmem with rfl | hmem
    · exact absurd hname hbad
    · obtain ⟨first, hfirst⟩ :
          ∃ first, s.parameterNames.find? (fun name => !Text.isIdentifier name.toList) = some first := by
        rw [← Option.isSome_iff_exists, List.find?_isSome]
        exact ⟨name, hmem, by simp [hbad]⟩
      rw [isEmpty_of_isIdentifier hname, hname, hfirst]
      rfl
  · -- an empty name is refused as well, in other words
    by_cases hempty : s.name.isEmpty = true
    · rw [if_pos hempty]
      rfl
    · rw [if_neg hempty, if_pos (by simp [hname])]
      rfl

end

theorem failureOf?_validate (s : Signature) :
    failureOf? s.validate =
      if ∃ name ∈ s.name :: s.parameterNames, ¬ Text.isIdentifier name.toList then some .inspection
      else if ¬ s.parameterNames.Nodup then some .invalidSignature
      else none := by
  by_cases hbad : ∃ name ∈ s.name :: s.parameterNames, ¬ Text.isIdentifier name.toList = true
  · rw [if_pos hbad, failureOf?_validate_of_bad hbad]
  · rw [if_neg hbad]
    push Not at hbad
    rw [validate_of_identifiers hbad]
    exact failureOf?_checkDistinct s.parameters

/-! ## Documentation -/

theorem isNone_documentation? (s : Signature) :
    s.documentation?.isNone = s.docstring.all fun text => Text.allBlank text.toList := by
  rw [Signature.documentation?]
  cases s.docstring with
  | none => rfl
  | some text =>
    rw [Option.filter_some, Option.all_some]
    cases Text.allBlank text.toList <;> rfl

theorem requiresDocstring_iff (o : Options) :
    o.requiresDocstring = true ↔
      o.requireAllParamsInDoc = true ∨ o.requireDescriptionsForParams = true ∨ o.requireShortDescription = true := by
  rw [Options.requiresDocstring, Bool.or_eq_true, Bool.or_eq_true, or_assoc]

namespace Generator

theorem kept_eq (g : Generator) (parameters : List Parameter) :
    g.kept parameters = parameters.filter fun p => p.name ∉ g.options.ignoreArgs := by
  apply List.filter_congr
  intro p _
  simp [Options.isIgnored]

/-- the names of the parameters that are kept, as the signature tells them -/
theorem map_kept (g : Generator) (s : Signature) :
    (g.kept s.parameters).map Parameter.name = s.keptNames g.options := by
  rw [kept_eq, Signature.keptNames, Signature.parameterNames, List.filter_map]
  rfl

/-- a check that lists names fails if there are any -/
theorem failureOf?_refuse {c : Bool} {cause : List String → SchemaError} {names : List String} :
    failureOf? (if c = true then refuse cause names else pure ⟨⟩) =
      if c ∧ names ≠ [] then some (cause names).failure else none := by
  cases c with
  | false => rfl
  | true =>
    cases names with
    | nil => rfl
    | cons name rest => rfl

/-- and else what comes after it decides -/
theorem failureOf?_refuse_bind {c : Bool} {cause : List String → SchemaError} {names : List String}
    {next : PUnit → Except SchemaError α} :
    failureOf? (if c = true then refuse cause names >>= next else next ⟨⟩) =
      if c ∧ names ≠ [] then some (cause names).failure else failureOf? (next ⟨⟩) :=
  calc failureOf? (if c = true then refuse cause names >>= next else next ⟨⟩)
    _ = failureOf? ((if c = true then refuse cause names else pure ⟨⟩) >>= next) := by cases c <;> rfl
    _ = (failureOf? (if c = true then refuse cause names else pure ⟨⟩)).or (failureOf? (next ⟨⟩)) := failureOf?_bind
    _ = _ := by rw [failureOf?_refuse, ite_or, Option.none_or]

theorem not_isDocumented_iff {m : Docstring.Model} {name : String} :
    (!m.isDocumented name) = true ↔ name ∉ Entries.keys m.params := by
  rw [Entries.mem_keys_iff_has, Docstring.Model.isDocumented, Bool.not_eq_true', Bool.not_eq_true]

theorem filter_undocumented (o : Options) (s : Signature) :
    ((s.keptNames o).filter fun name => !(s.model o).isDocumented name) = s.undocumented o := by
  rw [Signature.undocumented]
  apply List.filter_congr
  intro name _
  rw [Bool.eq_iff_iff, not_isDocumented_iff, decide_eq_true_iff]

theorem filter_undescribed (o : Options) (s : Signature) :
    ((s.keptNames o).filter fun name =>
      (s.model o).isDocumented name && (((s.model o).descriptionOf? name).getD "").isEmpty) = s.undescribed o := by
  rw [Signature.undescribed]
  apply List.filter_congr
  intro name _
  have htext : ∀ text : Option String, (text.getD "").isEmpty = true ↔ text = none ∨ text = some "" := by
    intro text
    cases text with
    | none => simp
    | some text => simp
  rw [Bool.eq_iff_iff, Bool.and_eq_true, decide_eq_true_iff, htext, Entries.mem_keys_iff_has]
  rfl

theorem failureOf?_checkModel (o : Options) (s : Signature) :
    failureOf? (checkModel o s.name (s.keptNames o) (s.model o)) =
      if o.requireShortDescription ∧ (s.model o).summary = "" then some (.noShortDescription s.name)
      else if o.requireAllParamsInDoc ∧ s.undocumented o ≠ [] then some (.notDocumented (s.undocumented o))
      else if o.requireDescriptionsForParams ∧ s.undescribed o ≠ [] then some (.missingDescription (s.undescribed o))
      else none := by
  unfold checkModel
  by_cases hshort : o.requireShortDescription ∧ (s.model o).summary = ""
  · rw [if_pos hshort, if_pos (by simp [hshort])]
    rfl
  · rw [if_neg hshort, if_neg (by simpa using hshort)]
    refine failureOf?_refuse_bind.trans ?_
    rw [filter_undocumented, filter_undescribed]
    exact congrArg (ite _ _) failureOf?_refuse

/-! ## Types -/

theorem failure?_descriptor (g : Generator) (p : Parameter) :
    (g.descriptor p).failure? =
      if g.options.allowBareGenericTypes = false ∧ p.hint.any Hint.hasBareGeneric then some (.bareGeneric p.name)
      else none := by
  rw [descriptor]
  cases p.hint with
  | none =>
    rw [if_neg (by simp)]
    rfl
  | some h =>
    cases hallow : g.options.allowBareGenericTypes with
    | true => rfl
    | false =>
      cases hbare : h.hasBareGeneric with
      | true =>
        simp only [hbare, Option.any_some, and_self, if_true]
        rfl
      | false =>
        simp only [hbare, Option.any_some, Bool.false_eq_true, and_false, if_false]
        rfl

theorem failure?_parameterInfo (g : Generator) (m : Docstring.Model) (p : Parameter) :
    (g.parameterInfo m p).failure? = (g.descriptor p).failure? := by
  unfold parameterInfo
  exact Outcome.failure?_bind_of_none fun _ => rfl

/-- the first parameter that fails decides -/
theorem failure?_parameterInfos (g : Generator) (m : Docstring.Model) (parameters : List Parameter) :
    (g.parameterInfos m parameters).failure? =
      if g.options.allowBareGenericTypes then none
      else (parameters.find? fun p => p.hint.any Hint.hasBareGeneric).map fun p => .bareGeneric p.name := by
  induction parameters with
  | nil => cases g.options.allowBareGenericTypes <;> rfl
  | cons p rest ih =>
    have hcons : (g.parameterInfos m (p :: rest)).failure? =
        (g.parameterInfo m p).failure?.or (g.parameterInfos m rest).failure? := by
      rw [parameterInfos]
      exact Outcome.failure?_bind fun info _ => Outcome.failure?_bind_of_none fun _ => rfl
    rw [hcons, ih, failure?_parameterInfo, failure?_descriptor]
    cases g.options.allowBareGenericTypes with
    | true => rfl
    | false =>
      cases hbare : p.hint.any Hint.hasBareGeneric with
      | true => simp [hbare]
      | false => simp [hbare]

theorem failure?_build (g : Generator) (s : Signature) (m : Docstring.Model) :
    (g.build s.parameters m).failure? =
      if ¬ s.parameterNames.Nodup then some .invalidSignature
      else if g.options.allowBareGenericTypes then none
      else (s.bareGeneric? g.options).map fun p => .bareGeneric p.name := by
  have hkept : (g.kept s.parameters).find? (fun p => p.hint.any Hint.hasBareGeneric) = s.bareGeneric? g.options := by
    rw [kept_eq, List.find?_filter, Signature.bareGeneric?]
    simp only [Bool.decide_and, Bool.decide_eq_true]
  unfold build
  rw [← hkept, ← failure?_parameterInfos g m]
  rw [Outcome.failure?_check_bind, failureOf?_checkDistinct, Outcome.failure?_bind_of_none fun _ => rfl, ite_or,
    Option.none_or]
  rfl

/-! ## The whole generation -/

theorem failure?_steps (g : Generator) (s : Signature) :
    (g.generate s).failure? =
      (failureOf? s.validate).or
        (if (s.documentation?.isNone && g.options.requiresDocstring) = true then some (.noDocstring s.name)
        else (failureOf? (checkModel g.options s.name (s.keptNames g.options) (s.model g.options))).or
          (g.build s.parameters (s.model g.options)).failure?) := by
  unfold generate
  rw [Outcome.failure?_check_bind, map_kept]
  cases hdoc : s.documentation?.isNone && g.options.requiresDocstring with
  | true =>
    simp only [if_true]
    rfl
  | false =>
    simp only [Bool.false_eq_true, if_false]
    rw [Outcome.failure?_lift_bind, Outcome.failure?_check_bind, Outcome.failure?_bind_of_none fun _ => rfl]
    rfl

/-- one after the other, the steps go through the reasons in the order of `Signature.failure?` -/
theorem failure?_generate (g : Generator) (s : Signature) : (g.generate s).failure? = s.failure? g.options := by
  rw [failure?_steps, failureOf?_validate, isNone_documentation?, failureOf?_checkModel, failure?_build, ite_or, ite_or,
    ite_or, ite_or, ite_or, Option.none_or, Option.none_or, Signature.failure?]
  simp only [Bool.and_eq_true, requiresDocstring_iff]
  by_cases hnodup : s.parameterNames.Nodup
  · -- the repeats that `build` looks for were refused by `validate`
    simp only [hnodup, not_true, if_false]
  · rw [if_pos hnodup, if_pos hnodup]

theorem failure?_lenient (s : Signature) :
    s.failure? .lenient ∈ [none, some .inspection, some .invalidSignature] := by
  unfold Signature.failure?
  by_cases hnames : ∃ name ∈ s.name :: s.parameterNames, ¬ Text.isIdentifier name.toList = true
  · rw [if_pos hnames]
    decide
  · rw [if_neg hnames]
    by_cases hnodup : s.parameterNames.Nodup
    · simp only [hnodup, Options.lenient, not_true, Bool.false_eq_true, or_self, and_false, false_and, if_false,
        if_true]
      decide
    · rw [if_pos hnodup]
      decide

/-- **Generation fails exactly when it should, and with the right error.** For every generator and every signature, the
failure is the first of these that applies: a name that is no identifier, two parameters of one name, no documentation
where some is required, no summary, parameters that are not mentioned, parameters without a text, a bare container. If
none applies, there is a document. With the lenient options only the first two are possible. -/
theorem generate_fails_first (g : Generator) (s : Signature) :
    (∀ f, s.failure? g.options = some f → ∃ e, (g.generate s).run.value = .error e ∧ e.failure = f) ∧
      (s.failure? g.options = none → ∃ d, (g.generate s).run.value = .ok d) ∧
      ∀ e, (generate ⟨.lenient, g.registry⟩ s).run.value = .error e →
        e.failure = .inspection ∨ e.failure = .invalidSignature := by
  refine ⟨fun f hf => ?_, fun hnone => ?_, fun e he => ?_⟩
  · rw [← failure?_generate] at hf
    exact exists_error_of_failureOf? hf
  · rw [← failure?_generate] at hnone
    exact exists_ok_of_failureOf? hnone
  · have hlenient := failure?_lenient s
    rw [← failure?_generate ⟨.lenient, g.registry⟩ s, Outcome.failure?, he] at hlenient
    simpa [failureOf?] using hlenient

/-- An ignored parameter needs no documentation. The others do, and all of them are reported. -/
theorem generate_undocumented :
    ∃ e, (generate ⟨{ Options.strict with ignoreArgs := ["ctx"] }, .empty⟩ ⟨"f", some "Sum.\n\n:param b: Second.",
        [.required "ctx" none, .required "c" none, .required "b" none, .required "a" none]⟩).run.value = .error e ∧
      e.failure = .notDocumented ["c", "a"] :=
  (generate_fails_first _ _).1 _ (by decide +kernel)

end Generator

end ToolSchema
