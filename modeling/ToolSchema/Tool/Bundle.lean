/-
Bundles: a callable together with the tool that describes it.

The envelope and its call arguments are computed once, when the bundle is made.
-/
import ToolSchema.Tool.Provider

namespace ToolSchema

structure Bundle (α : Type) where
  callable : α
  signature : Signature
  envelope : Envelope
  call : Json

namespace Bundle

variable {α : Type}

def make (callable : α) (s : Signature) (g : Generator) : Outcome (Bundle α) := do
  let e ← g.envelope s
  return ⟨callable, s, e, e.call⟩

/-- the schema in the format of a known provider -/
def schema? (ps : Providers) (name : String) (b : Bundle α) : Option Json :=
  (ps.get? name).map fun p => p.schema b.envelope

/-- the call arguments of a known provider -/
def call? (ps : Providers) (name : String) (b : Bundle α) : Option Json :=
  (ps.get? name).map fun p => p.call (p.schema b.envelope)

end Bundle

end ToolSchema
