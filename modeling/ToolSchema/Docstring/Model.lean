/-
What the documentation of a callable says: the model that all layouts lead to.
-/
import ToolSchema.Entries

namespace ToolSchema.Docstring

/-- the layout of parameter documentation -/
inductive Style where
  /-- tags such as `:param name: text` -/
  | tag
  /-- underlined titles, and tables with columns -/
  | table
  /-- sections under a header such as `Args:` -/
  | headed
  deriving DecidableEq

def Style.name : Style → String
  | .tag => "tag"
  | .table => "table"
  | .headed => "section"

/-- the layouts in the order in which they are tried -/
def Style.all : List Style := [.tag, .table, .headed]

def Style.ofName? (name : String) : Option Style :=
  Style.all.find? (·.name == name)

/-- what is said about one parameter; a parameter may be listed without any text -/
structure ParamDoc where
  typeName : Option String
  description : Option String
  deriving DecidableEq

structure Model where
  /-- the first line with text -/
  summary : String
  /-- all prose before the parameters -/
  description : String
  /-- parameters in order of their first mention -/
  params : Entries ParamDoc
  returns : Option String
  /-- the layout that was recognised -/
  style : Option Style
  deriving DecidableEq

namespace Model

def empty : Model := ⟨"", "", [], none, none⟩

def isDocumented (name : String) (m : Model) : Bool :=
  m.params.has name

/-- the text about a parameter -/
def descriptionOf? (name : String) (m : Model) : Option String :=
  (m.params.lookup name).bind ParamDoc.description

/-- the texts about all parameters that have one -/
def descriptions (m : Model) : Entries String :=
  m.params.filterMap fun (name, p) => p.description.map fun d => (name, d)

/-- nothing was found at all -/
def isEmpty (m : Model) : Bool :=
  m.summary.isEmpty && m.params.isEmpty && m.returns.isNone

end Model

end ToolSchema.Docstring
