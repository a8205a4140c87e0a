/-
Type expressions of function items.

`described?` is the type whose schema stands for a parameter: references, parentheses and invisible groups around it are
looked through, and an anonymous or inferred type has none. `static` replaces the lifetimes, so that the type can be
named outside the function's generics; what is kept as it stands keeps its own. The checked constructors, from
`anonymous?` to `array?`, refuse what cannot be written.
-/
import ToolSchema.Item.Bound

namespace ToolSchema.Item

mutual

inductive TypeExpr where
  /-- A path with what stands in angle brackets at its end, lifetimes first. What precedes that is text, also the type
  that a qualified path begins with. -/
  | path (front : List Piece) (lifetimes : List String) (arguments : List TypePart)
  /-- a function pointer, or a path that ends with parameters in round brackets -/
  | function (front : List Piece) (inputs : List TypePart) (output : Option TypeExpr)
  | reference (lifetime : Option String) (isMut : Bool) (target : TypeExpr)
  | pointer (isMut : Bool) (target : TypeExpr)
  | paren (inner : TypeExpr)
  /-- a type that a macro has put in as a whole -/
  | group (inner : TypeExpr)
  | slice (item : TypeExpr)
  | array (item : TypeExpr) (length : List Piece)
  | tuple (items : List TypeExpr)
  /-- some type with these bounds, known to the function alone -/
  | anonymous (bounds : List Bound)
  | dynamic (hasKeyword : Bool) (bounds : List Bound)
  | inferred
  | never
  /-- the type that a macro call stands for -/
  | call (macroPath : List Piece) (bracket : Bracket) (arguments : List Token)
  /-- what is no type of another form -/
  | verbatim (tokens : List Token)

/-- what a list inside of a type is made of -/
inductive TypePart where
  /-- a type after the name of what it belongs to, a parameter or an associated type -/
  | type (front : List Piece) (type : TypeExpr)
  /-- an associated type with its bounds -/
  | bounded (front : List Piece) (bounds : List Bound)
  /-- a constant, an associated one after its name, or the end of a variadic list -/
  | text (pieces : List Piece)

end

namespace TypeExpr

/-! ## Checked constructors -/

/-- at least one bound has to be a trait -/
def anonymous? (bounds : List Bound) : Option TypeExpr :=
  if bounds.any Bound.isTrait then some (.anonymous bounds) else none

/-- at least one bound has to be a trait, and the others lifetimes -/
def dynamic? (bounds : List Bound) : Option TypeExpr :=
  if bounds.any Bound.isTrait && bounds.all Bound.isDynamic then some (.dynamic true bounds) else none

/-- a sum of bounds; after an ampersand it needs parentheses -/
def isSum : TypeExpr → Bool
  | anonymous bounds => 1 < bounds.length
  | dynamic _ bounds => 1 < bounds.length
  | _ => false

def reference? (lifetime : Option String) (isMut : Bool) (target : TypeExpr) : Option TypeExpr :=
  if target.isSum then none else some (.reference lifetime isMut target)

/-- the most items that the length of an array can say -/
def maxLength : Nat := 4294967295

def array? (item : TypeExpr) (length : Nat) : Option TypeExpr :=
  if length ≤ maxLength then some (.array item [.free (.literal (toString length))]) else none

/-! ## The described type -/

def described? : TypeExpr → Option TypeExpr
  | reference _ _ target => described? target
  | paren inner => described? inner
  | group inner => described? inner
  | anonymous _ => none
  | inferred => none
  | t => some t

/-! ## Lifetimes -/

mutual

/-- the type with the lifetime that never ends in place of any other -/
def static : TypeExpr → TypeExpr
  | path front lifetimes arguments =>
    .path (front.map Piece.static) (lifetimes.map fun _ => staticLifetime) (staticParts arguments)
  | function front inputs output =>
    .function (front.map Piece.static) (staticParts inputs) (staticOutput output)
  | reference lifetime isMut target => .reference (lifetime.map fun _ => staticLifetime) isMut (static target)
  | pointer isMut target => .pointer isMut (static target)
  | paren inner => .paren (static inner)
  | group inner => .group (static inner)
  | slice item => .slice (static item)
  | array item length => .array (static item) (length.map Piece.static)
  | tuple items => .tuple (staticAll items)
  | anonymous bounds => .anonymous (bounds.map Bound.static)
  | dynamic hasKeyword bounds => .dynamic hasKeyword (bounds.map Bound.static)
  | inferred => .inferred
  | never => .never
  | call macroPath bracket arguments => .call (macroPath.map Piece.static) bracket arguments
  | verbatim tokens => .verbatim tokens

def staticAll : List TypeExpr → List TypeExpr
  | [] => []
  | t :: rest => static t :: staticAll rest

def staticOutput : Option TypeExpr → Option TypeExpr
  | none => none
  | some t => some (static t)

def staticPart : TypePart → TypePart
  | .type front t => .type (front.map Piece.static) (static t)
  | .bounded front bounds => .bounded (front.map Piece.static) (bounds.map Bound.static)
  | .text pieces => .text (pieces.map Piece.static)

def staticParts : List TypePart → List TypePart
  | [] => []
  | a :: rest => staticPart a :: staticParts rest

end

end TypeExpr

end ToolSchema.Item
