/-
Generation of schema documents.

`build` resolves the parameters that are not ignored and attaches what the model says about them. `generate` checks a
signature first, reads its documentation, and holds it against the options. The first failure decides; what was reported
before it stays.
-/
import ToolSchema.Docstring.Extract
import ToolSchema.Document
import ToolSchema.Options
import ToolSchema.Resolve

namespace ToolSchema

/-- a result or the reason why there is none, with the diagnostics up to there -/
abbrev Outcome := ExceptT SchemaError Traced

namespace Outcome

variable {α β : Type}

def ofExcept (x : Except SchemaError α) : Outcome α :=
  ExceptT.mk (pure x)

theorem value_bind (x : Outcome α) (f : α → Outcome β) :
    (x >>= f).run.value = match x.run.value with
      | .ok a => (f a).run.value
      | .error e => .error e := by
  simp only [ExceptT.run_bind, Traced.bind_value]
  split <;> simp_all

end Outcome

/-- options and registered types -/
structure Generator where
  options : Options
  registry : Registry

namespace Generator

def default : Generator := ⟨.lenient, .empty⟩

/-! ## Building -/

/-- the default as it is written: null only if the options ask for it -/
def embedded (o : Options) (p : Parameter) : Option Json :=
  if p.hasDefault then p.defaultValue.filter fun j => !j.isNull || o.embedNullDefaults else none

def descriptor (g : Generator) (p : Parameter) : Outcome Descriptor :=
  match p.hint with
  | some h =>
    if !g.options.allowBareGenericTypes && h.hasBareGeneric then throw (.bareGeneric p.name)
    else ExceptT.lift (resolve g.registry [] h)
  | none => ExceptT.lift do
    Traced.note (.noTypeHint p.name)
    return .unknown

def parameterInfo (g : Generator) (m : Docstring.Model) (p : Parameter) : Outcome ParameterInfo := do
  let d ← g.descriptor p
  return {
    name := p.name
    descriptor := d
    description := (m.descriptionOf? p.name).filter (!·.isEmpty)
    hasDefault := p.hasDefault
    defaultValue := embedded g.options p }

def parameterInfos (g : Generator) (m : Docstring.Model) : List Parameter → Outcome (List ParameterInfo)
  | [] => pure []
  | p :: rest => do
    let info ← g.parameterInfo m p
    let infos ← g.parameterInfos m rest
    return info :: infos

/-- the description that the options choose, without blanks around it -/
def description (o : Options) (m : Docstring.Model) : String :=
  String.ofList (Text.trim (match o.descriptionMode with
    | .summary => m.summary.toList
    | .full => m.description.toList))

/-- the parameters that are not ignored -/
def kept (g : Generator) (parameters : List Parameter) : List Parameter :=
  parameters.filter fun p => !g.options.isIgnored p.name

def build (g : Generator) (parameters : List Parameter) (m : Docstring.Model) : Outcome Document := do
  Outcome.ofExcept (checkDistinct parameters)
  let infos ← g.parameterInfos m (g.kept parameters)
  return ⟨description g.options m, infos⟩

/-! ## Checks of the documentation -/

/-- fail on some names, unless there are none -/
def refuse (cause : List String → SchemaError) : List String → Except SchemaError Unit
  | [] => .ok ()
  | names => .error (cause names)

/-- what the options require of the documentation, in the order in which it is reported -/
def checkModel (o : Options) (function : String) (names : List String) (m : Docstring.Model) :
    Except SchemaError Unit := do
  if o.requireShortDescription && m.summary.isEmpty then throw (.noShortDescription function)
  if o.requireAllParamsInDoc then
    refuse .notDocumented (names.filter fun name => !m.isDocumented name)
  if o.requireDescriptionsForParams then
    refuse .missingDescription
      (names.filter fun name => m.isDocumented name && ((m.descriptionOf? name).getD "").isEmpty)

/-! ## Generation -/

def generate (g : Generator) (s : Signature) : Outcome Document := do
  Outcome.ofExcept s.validate
  let names := (g.kept s.parameters).map Parameter.name
  if s.documentation?.isNone && g.options.requiresDocstring then throw (.noDocstring s.name)
  let m ← ExceptT.lift (Docstring.extract (s.documentation?.getD "") names)
  Outcome.ofExcept (checkModel g.options s.name names m)
  let d ← g.build s.parameters m
  ExceptT.lift (Traced.note (.schemaGenerated s.name d.properties.length d.required.length))
  return d

end Generator

end ToolSchema
