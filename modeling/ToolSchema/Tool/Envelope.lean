/-
Tool envelopes: a function's name, its description and its parameters, as models are told about them.
-/
import ToolSchema.Generate

namespace ToolSchema

structure Envelope where
  name : String
  parameters : Document

namespace Envelope

/-- the described function -/
def function (e : Envelope) : Json :=
  .object [("name", .string e.name), ("description", .string e.parameters.description),
    ("parameters", e.parameters.toJson)]

def toJson (e : Envelope) : Json :=
  .object [("type", .string "function"), ("function", e.function)]

/-- call arguments that offer one tool and make the model call it by this name -/
def forcedCall (tool name : Json) : Json :=
  .object [("tools", .array [tool]),
    ("tool_choice", .object [("type", .string "function"), ("function", .object [("name", name)])])]

/-- call arguments that make the model call this tool -/
def call (e : Envelope) : Json :=
  forcedCall e.toJson (.string e.name)

end Envelope

/-- the envelope of a signature -/
def Generator.envelope (g : Generator) (s : Signature) : Outcome Envelope := do
  let d ← g.generate s
  return ⟨s.name, d⟩

end ToolSchema
