/-
Program text some of which is out of reach.

What a macro call or an attribute has between its brackets is text that somebody else will read, and until then it has
no lifetimes, only tokens that look like them. It is the same with a bound by a trait of constants, which has no form of
its own yet. A piece is a token that knows whether it is kept as it stands.
-/
import ToolSchema.Item.Lifetime

namespace ToolSchema.Item

/-- a token; a fixed one is kept as it stands -/
structure Piece where
  token : Token
  isFixed : Bool
  deriving DecidableEq

namespace Piece

def free (t : Token) : Piece := ⟨t, false⟩

def fixed (t : Token) : Piece := ⟨t, true⟩

def static (p : Piece) : Piece :=
  if p.isFixed then p else free p.token.static

@[simp] theorem static_word (w : String) : (free (.word w)).static = free (.word w) := rfl

@[simp] theorem static_mark (c : Char) : (free (.mark c)).static = free (.mark c) := rfl

@[simp] theorem static_lifetime (l : String) : (free (.lifetime l)).static = free (.lifetime staticLifetime) := rfl

@[simp] theorem static_fixed (t : Token) : (fixed t).static = fixed t := rfl

@[simp] theorem static_comp_fixed : static ∘ fixed = fixed := rfl

/-- After these tokens, nearest one first, a bracket holds what a macro is called with, or an attribute after its
path. -/
def fixesNext (before : List Token) : Bool :=
  match before with
  | .mark '!' :: .word w :: _ => isSegment w
  | .word _ :: .mark '!' :: .word "macro_rules" :: _ => true
  | _ =>
    match before.dropWhile isPathToken with
    | .opening .square :: .mark '#' :: _ => true
    | .opening .square :: .mark '!' :: .mark '#' :: _ => true
    | _ => false

/-- After these tokens, nearest one first, there may be a bound. -/
def allowsBound (before : List Token) : Bool :=
  match before with
  | .word "impl" :: _ => true
  | .mark '+' :: _ => true
  | .mark ':' :: _ => true
  | _ => false

/-- what follows the lifetimes that a bound holds for, if there are any -/
def afterBinder (ts : List Token) : List Token :=
  match ts with
  | .word "for" :: .mark '<' :: ts => (ts.dropWhile (· != .mark '>')).tail
  | ts => ts

/-- what begins with a trait whose methods are constant, always or where they can be, perhaps in round brackets -/
def isConstant (ts : List Token) : Bool :=
  match afterBinder (if ts.head? = some (.opening .round) then ts.tail else ts) with
  | .mark '~' :: .word "const" :: _ => true
  | .opening .square :: .word "const" :: .closing .square :: _ => true
  | .word "const" :: _ => true
  | _ => false

/-- How many brackets are open after a token, angle brackets among them. `previous` is the token before it; an arrow
closes nothing. -/
def depthAfter (depth : Nat) (previous : Option Token) : Token → Nat
  | .opening _ => depth + 1
  | .closing _ => depth - 1
  | .mark '<' => depth + 1
  | .mark '>' => if previous = some (.mark '-') then depth else depth - 1
  | _ => depth

/-- a token that no bound goes beyond, unless in brackets -/
def endsBound (previous : Option Token) : Token → Bool
  | .closing _ => true
  | .mark '>' => previous != some (.mark '-')
  | .mark c => c == '+' || c == ',' || c == ';'
  | _ => false

/-- what a token stands in that is kept as it stands -/
inductive Region where
  | none
  /-- a macro call or an attribute, with this many brackets open -/
  | call (depth : Nat)
  /-- a bound by a trait of constants, with this many brackets open, angle brackets among them -/
  | bound (depth : Nat)
  deriving DecidableEq

/-- where the first one of `ts` stands, if it is in `region` unless something ends or begins there -/
def Region.around (region : Region) (before ts : List Token) : Region :=
  match region with
  | call depth => call depth
  | bound 0 => if ts.head?.any (endsBound before.head?) then none else bound 0
  | bound depth => bound depth
  | none => if allowsBound before && isConstant ts then bound 0 else none

/-- where the token after `t` stands -/
def Region.after (region : Region) (before : List Token) (t : Token) : Region :=
  match region, t with
  | none, .opening _ => if fixesNext before then call 1 else none
  | none, _ => none
  | call depth, .opening _ => call (depth + 1)
  | call depth, .closing _ => if depth = 1 then none else call (depth - 1)
  | call depth, _ => call depth
  | bound depth, t => bound (depthAfter depth before.head? t)

/-- `before` are the tokens to the left, nearest one first -/
def ofTokensAt (before : List Token) (region : Region) : List Token → List Piece
  | [] => []
  | t :: ts =>
    let here := region.around before (t :: ts)
    ⟨t, here != .none⟩ :: ofTokensAt (t :: before) (here.after before t) ts

def ofTokens (ts : List Token) : List Piece :=
  ofTokensAt [] .none ts

example :
    ((ofTokens [.word "f", .mark '!', .opening .round, .lifetime "'a", .closing .round, .lifetime "'b"]).map static).map
        token =
      [.word "f", .mark '!', .opening .round, .lifetime "'a", .closing .round, .lifetime staticLifetime] := by decide

example :
    ((ofTokens [.word "T", .mark ':', .mark '~', .word "const", .word "A", .mark '<', .lifetime "'a", .mark '>',
        .mark '+', .lifetime "'b"]).map static).map token =
      [.word "T", .mark ':', .mark '~', .word "const", .word "A", .mark '<', .lifetime "'a", .mark '>', .mark '+',
        .lifetime staticLifetime] := by decide

end Piece

end ToolSchema.Item
