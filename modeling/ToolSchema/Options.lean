/-
Options of schema generation.

Nothing is required of the documentation unless an option says so. The JSON form has one member for every option;
reading takes the default for each that is missing.
-/
import ToolSchema.Json.Basic

namespace ToolSchema

/-- what becomes the description of the function -/
inductive DescriptionMode where
  /-- the first line with text -/
  | summary
  /-- all prose before the parameters -/
  | full
  deriving DecidableEq

def DescriptionMode.name : DescriptionMode → String
  | .summary => "summary"
  | .full => "full"

def DescriptionMode.ofName? : String → Option DescriptionMode
  | "summary" => some .summary
  | "full" => some .full
  | _ => none

structure Options where
  /-- parameters that are left out altogether -/
  ignoreArgs : List String
  requireAllParamsInDoc : Bool
  requireDescriptionsForParams : Bool
  requireShortDescription : Bool
  /-- containers without element type are accepted -/
  allowBareGenericTypes : Bool
  descriptionMode : DescriptionMode
  /-- null defaults are written like any other -/
  embedNullDefaults : Bool
  deriving DecidableEq

namespace Options

def lenient : Options := ⟨[], false, false, false, true, .summary, false⟩

/-- a summary is required, and a described entry for every parameter -/
def strict : Options :=
  { lenient with requireAllParamsInDoc := true, requireDescriptionsForParams := true, requireShortDescription := true }

def isIgnored (name : String) (o : Options) : Bool :=
  o.ignoreArgs.contains name

/-- some option looks at the documentation -/
def requiresDocstring (o : Options) : Bool :=
  o.requireAllParamsInDoc || o.requireDescriptionsForParams || o.requireShortDescription

/-! ## JSON form -/

def keys : List String :=
  ["ignore_args", "require_all_params_in_doc", "require_descriptions_for_params", "require_short_description",
    "allow_bare_generic_types", "description_mode", "embed_null_defaults"]

def toJson (o : Options) : Json :=
  .object (keys.zip [.ofStrings o.ignoreArgs, .bool o.requireAllParamsInDoc, .bool o.requireDescriptionsForParams,
    .bool o.requireShortDescription, .bool o.allowBareGenericTypes, .string o.descriptionMode.name,
    .bool o.embedNullDefaults])

/-- a member, or the default if it is missing -/
def member? {α : Type} (read : Json → Option α) (default : α) : Option Json → Option α
  | some j => read j
  | none => some default

def strings? (j : Json) : Option (List String) := do
  (← j.array?).mapM Json.string?

def ofJson? (j : Json) : Option Options := do
  match ← j.optionalMembers? keys with
  | [ignoreArgs, allInDoc, descriptions, short, bare, mode, nulls] =>
    return {
      ignoreArgs := ← member? strings? lenient.ignoreArgs ignoreArgs
      requireAllParamsInDoc := ← member? Json.bool? lenient.requireAllParamsInDoc allInDoc
      requireDescriptionsForParams := ← member? Json.bool? lenient.requireDescriptionsForParams descriptions
      requireShortDescription := ← member? Json.bool? lenient.requireShortDescription short
      allowBareGenericTypes := ← member? Json.bool? lenient.allowBareGenericTypes bare
      descriptionMode := ← member? (fun j => j.tag?.bind DescriptionMode.ofName?) lenient.descriptionMode mode
      embedNullDefaults := ← member? Json.bool? lenient.embedNullDefaults nulls }
  | _ => none

end Options

end ToolSchema
