/-
Bounds of anonymous and dynamic types.

A bound is read by its outline, what stands outside of all brackets; the rest of it is text. `static` replaces its
lifetimes, except those of pieces that are kept as they stand.
-/
import ToolSchema.Item.Piece

namespace ToolSchema.Item

inductive Bound where
  /-- a trait with what it holds for and what weakens it, perhaps in round brackets -/
  | trait (pieces : List Piece)
  | lifetime (name : String)
  /-- the generic parameters that the type may depend on -/
  | captures (pieces : List Piece)
  /-- a trait of constants, which is kept as it stands -/
  | verbatim (tokens : List Token)
  deriving DecidableEq

namespace Bound

def isTrait : Bound → Bool
  | trait _ => true
  | verbatim _ => true
  | _ => false

/-- what can bound a dynamic type -/
def isDynamic : Bound → Bool
  | trait _ => true
  | lifetime _ => true
  | _ => false

def text : Bound → String
  | trait ps => Token.sourceText (ps.map Piece.token)
  | lifetime l => l
  | captures ps => Token.sourceText (ps.map Piece.token)
  | verbatim ts => Token.text ts

def static : Bound → Bound
  | trait ps => trait (ps.map Piece.static)
  | lifetime _ => lifetime staticLifetime
  | captures ps => captures (ps.map Piece.static)
  | verbatim ts => verbatim ts

/-! ## Outlines -/

/-- the parts of a sum; a plus sign inside of brackets belongs to its part -/
def summands (depth : Nat) (previous : Option Token) : List Token → List (List Token)
  | [] => [[]]
  | t :: ts =>
    let rest := summands (Piece.depthAfter depth previous t) (some t) ts
    if t = .mark '+' ∧ depth = 0 then [] :: rest
    else
      match rest with
      | [] => [[t]]
      | part :: parts => (t :: part) :: parts

/-- the tokens outside of all brackets, with the outermost brackets -/
def outline (depth : Nat) (previous : Option Token) : List Token → List Token
  | [] => []
  | t :: ts =>
    let next := Piece.depthAfter depth previous t
    if depth = 0 ∨ next = 0 then t :: outline next (some t) ts else outline next (some t) ts

/-- the outline of a path whose segments may have arguments, in round brackets with a result -/
def isTraitPath : List Token → Bool
  | [.word w] => isSegment w
  | [.word w, .mark '<', .mark '>'] => isSegment w
  | .word w :: .opening .round :: .closing .round :: ts =>
    isSegment w && (match ts with
      | [] => true
      | .mark '-' :: .mark '>' :: _ :: _ => true
      | _ => false)
  | .word w :: .mark '<' :: .mark '>' :: .mark ':' :: .mark ':' :: ts => isSegment w && isTraitPath ts
  | [.word w, .mark ':', .mark ':', .mark '<', .mark '>'] => isSegment w
  | .word w :: .mark ':' :: .mark ':' :: .mark '<' :: .mark '>' :: .mark ':' :: .mark ':' :: ts =>
    isSegment w && isTraitPath ts
  | .word w :: .mark ':' :: .mark ':' :: ts => isSegment w && isTraitPath ts
  | _ => false

/-- a path, after a double colon or not, with the mark that weakens it -/
def isWeakened (ts : List Token) : Bool :=
  match ts with
  | .mark '?' :: .mark ':' :: .mark ':' :: ts => isTraitPath ts
  | .mark '?' :: ts => isTraitPath ts
  | .mark ':' :: .mark ':' :: ts => isTraitPath ts
  | ts => isTraitPath ts

/-- what follows the lifetimes that a trait holds for -/
def afterBinder : List Token → List Token
  | .word "for" :: .mark '<' :: .mark '>' :: ts => ts
  | ts => ts

/-- the outline of a trait; the lifetimes that it holds for come before the mark that weakens it or after it -/
def isTraitOutline (ts : List Token) : Bool :=
  match ts with
  | .mark '?' :: .word "for" :: ts => isWeakened (.mark '?' :: afterBinder (.word "for" :: ts))
  | ts => isWeakened (afterBinder ts)

/-- the outline of a trait whose methods are constant, always or where they can be -/
def isConstOutline (ts : List Token) : Bool :=
  match afterBinder ts with
  | .mark '~' :: .word "const" :: ts => isWeakened ts
  | .opening .square :: .closing .square :: ts => isWeakened ts
  | .word "const" :: ts => isWeakened ts
  | _ => false

/-! ## Reading -/

/-- what round brackets enclose, if there are any around all tokens -/
def inside (ts : List Token) : List Token :=
  match Token.group? ts with
  | some (.round, ts) => ts
  | _ => ts

/-- one summand as a bound -/
def ofTokens? (ts : List Token) : Option Bound :=
  match ts, outline 0 none ts with
  | [.lifetime l], _ => some (lifetime l)
  | _, [.word "use", .mark '<', .mark '>'] => some (captures (Piece.ofTokens ts))
  | _, _ =>
    let out := outline 0 none (inside ts)
    if isTraitOutline out then some (trait (Piece.ofTokens ts))
    else if isConstOutline out then some (verbatim ts)
    else none

/-- the bounds that a text lists with plus signs between them -/
def ofText? (source : String) : Option (List Bound) := do
  let ts ← Token.ofText? source
  (summands 0 none ts).mapM ofTokens?

example :
    (ofText? "A<m!('a)> + 'a + ~const B").map (List.map static) =
      some [.trait (Piece.ofTokens [.word "A", .mark '<', .word "m", .mark '!', .opening .round, .lifetime "'a",
          .closing .round, .mark '>']), .lifetime staticLifetime,
        .verbatim [.mark '~', .word "const", .word "B"]] := by decide +kernel

end Bound

end ToolSchema.Item
