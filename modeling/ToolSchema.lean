import ToolSchema.Docstring.Codec
import ToolSchema.Hint.Codec
import ToolSchema.Hint.OfSchema
import ToolSchema.Item.Constructor
import ToolSchema.Json.Parser
import ToolSchema.Main
import ToolSchema.Proofs.Hint.Admits
import ToolSchema.Proofs.Descriptor.Accepts
import ToolSchema.Proofs.Descriptor.Normal
import ToolSchema.Proofs.Repeats
import ToolSchema.Proofs.Descriptor.Build
import ToolSchema.Proofs.Resolve.Resolves
import ToolSchema.Proofs.Resolve.Meaning
import ToolSchema.Proofs.Schema.Fragment
import ToolSchema.Proofs.Hint.Reading
import ToolSchema.Proofs.Docstring.Clean
import ToolSchema.Proofs.Docstring.Findings
import ToolSchema.Proofs.Docstring.Layout
import ToolSchema.Proofs.Docstring.Tag
import ToolSchema.Proofs.Docstring.Headed
import ToolSchema.Proofs.Docstring.Table
import ToolSchema.Proofs.Docstring.Interchange
import ToolSchema.Proofs.Descriptor.Readback
import ToolSchema.Proofs.Docstring.Detection
import ToolSchema.Proofs.Generate.Document
import ToolSchema.Proofs.Resolve.Guarded
import ToolSchema.Proofs.Descriptor.Nodes
import ToolSchema.Proofs.Hint.Names
import ToolSchema.Proofs.Hint.Reader
import ToolSchema.Proofs.Resolve.Free
import ToolSchema.Proofs.Hint.SelfContained
import ToolSchema.Proofs.Docstring.Restrict
import ToolSchema.Proofs.Docstring.Reset
import ToolSchema.Proofs.Resolve.Transparent
import ToolSchema.Proofs.Hint.Inlined
import ToolSchema.Proofs.Generate.Strictness
import ToolSchema.Proofs.Generate.Neighbours
import ToolSchema.Proofs.Generate.BareContainers
import ToolSchema.Proofs.Docstring.Marker
import ToolSchema.Proofs.Docstring.WellFormed
import ToolSchema.Proofs.Docstring.Cursor.Extract
import ToolSchema.Proofs.Resolve.Degraded
import ToolSchema.Proofs.Resolve.Reachable
import ToolSchema.Proofs.Hint.Codec
import ToolSchema.Proofs.Text.Lowercase
import ToolSchema.Proofs.Tool.Providers
import ToolSchema.Proofs.Descriptor.Rendering
import ToolSchema.Proofs.Item.Description
import ToolSchema.Proofs.Resolve.Repetition
import ToolSchema.Proofs.Resolve.Depth
import ToolSchema.Proofs.Resolve.Declarations
import ToolSchema.Proofs.Docstring.Indentation
import ToolSchema.Proofs.Docstring.TagBlocks
import ToolSchema.Proofs.Generate.Additions
import ToolSchema.Proofs.Item.Documentation
