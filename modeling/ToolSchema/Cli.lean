/-
The command line: the schemas of the sample tools, for one provider or for all of them.

`run` is the whole program but for its input and output. An unknown provider ends it with status 1.
-/
import ToolSchema.Catalog
import ToolSchema.Tool.Bundle

namespace ToolSchema.Cli

/-- what a run leaves behind -/
structure Output where
  status : Nat
  stdout : String
  stderr : String

/-- the schemas of all sample tools for one provider, or the first reason why there are none -/
def schemas (ps : Providers) (provider : String) : Except SchemaError (List Json) := do
  let bundles ← Catalog.all.mapM fun s => (Bundle.make () s .default).run.value
  return bundles.filterMap (·.schema? ps provider)

/-- the section of one provider -/
def report (provider : String) (tools : List Json) : String :=
  "# " ++ provider ++ "\n" ++ (Json.array tools).pretty ++ "\n"

/-- print one provider after another; a failure ends the run after what is printed already -/
def print (ps : Providers) : List String → Output
  | [] => ⟨0, "", ""⟩
  | provider :: rest =>
    match schemas ps provider with
    | .error e => ⟨1, "", "Error: " ++ e.message ++ "\n"⟩
    | .ok tools =>
      let out := print ps rest
      { out with stdout := report provider tools ++ out.stdout }

/-- run with these arguments; only the first one counts -/
def run (args : List String) : Output :=
  let ps := Providers.builtin
  match args with
  | [] => print ps ps.names
  | name :: _ =>
    if ps.has name then print ps [Text.lowercase name]
    else ⟨1, "", "Error: unknown provider '" ++ name ++ "'\nAvailable: " ++ ", ".intercalate ps.names ++ "\n"⟩

end ToolSchema.Cli
