/-
The signature constructor of a function item.

`describe` says which constructor belongs to an item, or why none does. The item as a whole is checked first: receiver,
generics, variadic tail. Then each parameter in order: its pattern, the first `default` attribute, the first `hint`
attribute. Whether tokens are an expression is not decided here.
-/
import ToolSchema.Item.Function
import ToolSchema.Text.Basic

namespace ToolSchema.Item

/-! ## Errors -/

inductive Error where
  | receiver
  | generics
  | variadic
  | pattern
  /-- a `default` attribute with an equals sign -/
  | defaultForm
  /-- an attribute without the expression that it needs -/
  | noExpression
  deriving DecidableEq

/-- the text of an error; what is wrong with an expression is left to those who read expressions -/
def Error.message? : Error → Option String
  | receiver => some "#[schemafunc] cannot be applied to methods with a `self` receiver"
  | generics => some "#[schemafunc] does not support type or const generic parameters"
  | variadic => some "#[schemafunc] does not support variadic functions"
  | pattern => some "#[schemafunc] parameters must be plain identifiers"
  | defaultForm => some "expected `#[default]` or `#[default(expr)]`"
  | noExpression => none

/-! ## Constructors -/

/-- where the type of a described parameter comes from -/
inductive Source where
  | hint (tokens : List Token)
  | type (type : TypeExpr)
  | untyped

inductive Default where
  | absent
  /-- there is a default whose value is not given -/
  | unspecified
  | value (tokens : List Token)

structure Described where
  name : String
  source : Source
  default : Default

structure Constructor where
  /-- the name that the tool gets -/
  tool : String
  /-- the name of the constructor itself -/
  name : String
  visibility : String
  docstring : Option String
  parameters : List Described
  /-- for each parameter, the paths of the attributes that are not for the constructor -/
  keptAttributes : List (List String)

/-! ## Documentation -/

/-- a documentation line without the space it begins with, and without blanks at its end -/
def docLine (line : Line) : Line :=
  Text.trimEnd (match line with
    | ' ' :: rest => rest
    | _ => line)

/-- the lines of all documentation strings; attributes of another kind say nothing -/
def docLines (docs : List (Option String)) : List Line :=
  (docs.filterMap id).flatMap fun s => (Text.splitOn (· == '\n') s.toList).map docLine

/-- the documentation of an item, unless all its lines are empty -/
def docstring? (docs : List (Option String)) : Option String :=
  let ls := docLines docs
  if ls.all (·.isEmpty) then none else some (String.ofList (Text.joinLines ls))

/-! ## Attributes -/

/-- the attributes that are for the constructor -/
def helperPaths : List String := ["default", "hint"]

def first? (path : String) (attributes : List Attribute) : Option Attribute :=
  attributes.find? (·.path == path)

def default? (isExpression : List Token → Bool) (attributes : List Attribute) : Except Error Default :=
  match first? "default" attributes with
  | none => .ok .absent
  | some ⟨_, .absent⟩ => .ok .unspecified
  | some ⟨_, .list tokens⟩ => if isExpression tokens then .ok (.value tokens) else .error .noExpression
  | some ⟨_, .value _⟩ => .error .defaultForm

def hint? (isExpression : List Token → Bool) (attributes : List Attribute) : Except Error (Option (List Token)) :=
  match first? "hint" attributes with
  | none => .ok none
  | some ⟨_, .list tokens⟩ => if isExpression tokens then .ok (some tokens) else .error .noExpression
  | some _ => .error .noExpression

def kept (attributes : List Attribute) : List String :=
  (attributes.map Attribute.path).filter fun path => !helperPaths.contains path

/-! ## Description -/

/-- a hint comes before the type that is written -/
def source (hint : Option (List Token)) (type : TypeExpr) : Source :=
  match hint, type.described? with
  | some tokens, _ => .hint tokens
  | none, some t => .type t.static
  | none, none => .untyped

def describeParameter (isExpression : List Token → Bool) (p : Parameter) : Except Error Described :=
  match p.pattern with
  | .other => .error .pattern
  | .name name _ => do
    let default ← default? isExpression p.attributes
    let hint ← hint? isExpression p.attributes
    return ⟨plainName name, source hint p.type, default⟩

def describeParameters (isExpression : List Token → Bool) : List Parameter → Except Error (List Described)
  | [] => .ok []
  | p :: rest => do
    let d ← describeParameter isExpression p
    let ds ← describeParameters isExpression rest
    return d :: ds

/-- the checks of the item as a whole -/
def check (f : Function) : Except Error Unit :=
  if f.hasReceiver then .error .receiver
  else if f.generics.contains .other then .error .generics
  else if f.isVariadic then .error .variadic
  else .ok ()

def describe (isExpression : List Token → Bool) (f : Function) : Except Error Constructor := do
  check f
  let parameters ← describeParameters isExpression f.parameters
  return {
    tool := plainName f.name
    name := plainName f.name ++ "_signature"
    visibility := f.visibility
    docstring := docstring? f.docs
    parameters := parameters
    keptAttributes := f.parameters.map fun p => kept p.attributes }

end ToolSchema.Item
