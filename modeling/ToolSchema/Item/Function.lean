/-
Function items: a function's declaration with its attributes, as far as a signature can be made from it.

`Attribute.ofText?`, `Generic.ofText?` and `Input.ofText?` read the parts of an item, `Function.ofParts?` puts them
together. Each of them refuses what is no part of an item at all; whether an item can be described is another matter.
-/
import ToolSchema.Item.TypeExpr

namespace ToolSchema.Item

/-! ## Attributes -/

/-- what follows the path of an attribute -/
inductive Arguments where
  | absent
  /-- tokens in brackets -/
  | list (tokens : List Token)
  /-- a value after an equals sign -/
  | value (tokens : List Token)

def Arguments.ofTokens? : List Token → Option Arguments
  | [] => some .absent
  | .mark '=' :: t :: ts => some (.value (t :: ts))
  | ts => (Token.group? ts).map fun (_, inside) => .list inside

structure Attribute where
  path : String
  arguments : Arguments

namespace Attribute

/-- An attribute without its hash sign and brackets. Its path may be `unsafe`, though no other path can be a keyword. -/
def ofText? (source : String) : Option Attribute := do
  let ts ← Token.ofText? source
  let path := ts.takeWhile isPathToken
  let arguments ← Arguments.ofTokens? (ts.dropWhile isPathToken)
  if isPath path ∨ path = [.word "unsafe"] then some ⟨Token.text path, arguments⟩ else none

end Attribute

/-- Something is left when the attributes in front are taken away; `depth` counts their brackets that are open. -/
def hasExpressionAt (depth : Nat) : List Token → Bool
  | [] => false
  | .mark '#' :: .opening .square :: ts => hasExpressionAt (depth + 1) ts
  | t :: ts =>
    match depth, t with
    | 0, t => t != .mark '#'
    | _ + 1, .opening _ => hasExpressionAt (depth + 1) ts
    | depth + 1, .closing _ => hasExpressionAt depth ts
    | _ + 1, _ => hasExpressionAt depth ts

/-- tokens among which an expression can be found -/
def hasExpression (ts : List Token) : Bool :=
  hasExpressionAt 0 ts

/-! ## Parameters -/

/-- what a parameter binds -/
inductive Pattern where
  /-- the name of the whole, and after an at sign the pattern of its parts -/
  | name (name : String) (parts : Option Pattern)
  /-- anything that gives no name to the whole -/
  | other

namespace Pattern

/-- A path, and what stands in brackets after it: the parts of a value. -/
def isConstructor (ts : List Token) : Bool :=
  isPath (ts.takeWhile isPathToken) &&
    (match ts.dropWhile isPathToken with
      | [] => true
      | ts => (Token.group? ts).any fun (bracket, _) => bracket != .square)

/-- the least or the greatest value of a range -/
def isLimit : List Token → Bool
  | [.literal _] => true
  | [.mark '-', .literal _] => true
  | ts => isPath ts

/-- values between two limits, or all the rest -/
def isRange (ts : List Token) : Bool :=
  let low := ts.takeWhile (· != .mark '.')
  match ts.dropWhile (· != .mark '.') with
  | .mark '.' :: .mark '.' :: .mark '=' :: high => (low.isEmpty || isLimit low) && isLimit high
  | .mark '.' :: .mark '.' :: high => (low.isEmpty || isLimit low) && (high.isEmpty || isLimit high)
  | _ => false

/-- a pattern without a name for the whole, by its outline -/
def isOther (ts : List Token) : Bool :=
  match ts with
  | [.word w] => isSegment w || ["_", "true", "false"].contains w
  | ts =>
    isLimit ts || isRange ts || isConstructor ts || (Token.group? ts).any fun (bracket, _) => bracket != .curly

/-- the name of a pattern that is nothing else; whether it is for a reference or a variable makes no difference -/
def plainName? : List Token → Option String
  | [.word w] => if isName w then some w else none
  | [.word "mut", .word w] => if isName w then some w else none
  | [.word "ref", .word w] => if isName w then some w else none
  | [.word "ref", .word "mut", .word w] => if isName w then some w else none
  | _ => none

/-- a name for the whole of what the pattern behind the at sign takes apart -/
def whole? (front : List Token) (parts : Option Pattern) : Option Pattern := do
  return .name (← plainName? front) (some (← parts))

def ofTokens? : List Token → Option Pattern
  | .mark '&' :: .word "mut" :: ts => (ofTokens? ts).map fun _ => .other
  | .mark '&' :: ts => (ofTokens? ts).map fun _ => .other
  | a :: .mark '@' :: ts => whole? [a] (ofTokens? ts)
  | a :: b :: .mark '@' :: ts => whole? [a, b] (ofTokens? ts)
  | a :: b :: c :: .mark '@' :: ts => whole? [a, b, c] (ofTokens? ts)
  | ts =>
    match plainName? ts with
    | some w => some (.name w none)
    | none => if isOther ts then some .other else none

example :
    ofTokens? [.word "mut", .word "all", .mark '@', .word "first", .mark '@', .word "_"] =
      some (.name "all" (some (.name "first" (some .other)))) := rfl

end Pattern

structure Parameter where
  pattern : Pattern
  type : TypeExpr
  attributes : List Attribute

/-- one of the parameters as it is written -/
inductive Input where
  | receiver
  | typed (parameter : Parameter)

namespace Input

/-- A parameter from its pattern, its type and its attributes. The receiver is one that may have a type as well, unless
it is a reference. -/
def ofText? (pattern : String) (type : TypeExpr) (attributes : List Attribute) : Option Input :=
  match Token.ofText? pattern with
  | none => none
  | some [.word "self"] => some .receiver
  | some [.word "mut", .word "self"] => some .receiver
  | some [.mark '&', .word "self"] => none
  | some [.mark '&', .word "mut", .word "self"] => none
  | some ts => (Pattern.ofTokens? ts).map fun p => .typed ⟨p, type, attributes⟩

def parameter? : Input → Option Parameter
  | receiver => none
  | typed p => some p

def isReceiver : Input → Bool
  | receiver => true
  | typed _ => false

end Input

/-! ## Generic parameters -/

/-- a generic parameter; only lifetimes can be left out of a signature -/
inductive Generic where
  | lifetime
  | other
  deriving DecidableEq

namespace Generic

/-- a lifetime outlives other lifetimes, a type has bounds and a default, a constant has a type -/
def ofTokens? : List Token → Option Generic
  | [.lifetime _] => some .lifetime
  | .lifetime _ :: .mark ':' :: ts =>
    if ts.all fun t => t.isLifetime || t == .mark '+' then some .lifetime else none
  | .word "const" :: .word w :: .mark ':' :: _ :: _ => if isName w then some .other else none
  | [.word w] => if isName w then some .other else none
  | .word w :: .mark c :: _ => if isName w && (c == ':' || c == '=') then some .other else none
  | _ => none

def ofText? (source : String) : Option Generic := do
  ofTokens? (← Token.ofText? source)

end Generic

/-! ## Items -/

structure Function where
  name : String
  visibility : String
  /-- the first parameter is the receiver of a method -/
  hasReceiver : Bool
  generics : List Generic
  isVariadic : Bool
  /-- the strings of the documentation attributes, in order; nothing for an attribute of another kind -/
  docs : List (Option String)
  parameters : List Parameter

/-- Put an item together. A receiver can only come first, and names must be names. -/
def Function.ofParts? (name visibility : String) (generics : List Generic) (isVariadic : Bool)
    (docs : List (Option String)) (inputs : List Input) : Option Function := do
  let name ← name? name
  let visibility ← visibility? visibility
  if inputs.tail.any Input.isReceiver then none
  else some ⟨name, visibility, inputs.head?.any Input.isReceiver, generics, isVariadic, docs,
    inputs.filterMap Input.parameter?⟩

end ToolSchema.Item
