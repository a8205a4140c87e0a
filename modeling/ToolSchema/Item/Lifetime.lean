/-
Lifetimes in program text.

`static` replaces a lifetime by the one that never ends. `lifetimesFirst` writes every list in angle brackets with its
lifetimes before its other arguments, each kind in the order that it had. An angle bracket opens a list if one closes
it before the bracket around it or the statement ends; otherwise it compares or shifts. What a macro call or an
attribute has between its brackets stays as it is.
-/
import ToolSchema.Item.Name

namespace ToolSchema.Item

/-- the lifetime that never ends -/
def staticLifetime : String := "'static"

def Token.static : Token → Token
  | .lifetime _ => .lifetime staticLifetime
  | t => t

namespace Token

def isLifetime : Token → Bool
  | lifetime _ => true
  | _ => false

/-! ## One list -/

/-- A lifetime as an argument, or as a parameter with the lifetimes that it outlives, and the comma after it. The
lifetime that begins a sum of bounds is none. -/
def isLifetimeArgument : List Token → Bool
  | [lifetime _] => true
  | [lifetime _, mark ','] => true
  | lifetime _ :: mark ':' :: ts =>
    ts.all fun t => t.isLifetime || t == mark '+' || t == mark ','
  | _ => false

/-- The lifetimes and then the others. A comma parts the two, also where the last lifetime had none. -/
def arrange (arguments : List (List Token)) : List Token :=
  let lifetimes := (arguments.filter isLifetimeArgument).flatten
  let others := (arguments.filter fun a => !isLifetimeArgument a).flatten
  if lifetimes.isEmpty || others.isEmpty || lifetimes.getLast? = some (mark ',') then lifetimes ++ others
  else lifetimes ++ mark ',' :: others

/-! ## Open brackets -/

inductive Region where
  /-- after an angle bracket -/
  | angle
  /-- between brackets of another kind, or the whole text -/
  | plain
  /-- in a macro call or an attribute -/
  | fixed
  deriving DecidableEq

/-- what is read of a region that is not closed yet -/
structure Frame where
  region : Region
  /-- what opened the region, empty for the whole text -/
  lead : List Token
  /-- the finished arguments with their commas, last one first; only after an angle bracket -/
  arguments : List (List Token)
  /-- the tokens after the last comma, last one first -/
  current : List Token

namespace Frame

def start (region : Region) (lead : List Token) : Frame := ⟨region, lead, [], []⟩

def add (f : Frame) (ts : List Token) : Frame :=
  { f with current := ts.reverse ++ f.current }

def endArgument (f : Frame) : Frame :=
  { f with arguments := f.current.reverse :: f.arguments, current := [] }

/-- the tokens in their order -/
def tokens (f : Frame) : List Token :=
  f.lead ++ f.arguments.reverse.flatten ++ f.current.reverse

/-- the tokens as a list of arguments -/
def arranged (f : Frame) : List Token :=
  f.lead ++ arrange (f.arguments.reverse ++ [f.current.reverse])

end Frame

/-- the innermost region and those around it, innermost first -/
structure Regions where
  inner : Frame
  outer : List Frame

namespace Regions

def enter (r : Regions) (region : Region) (t : Token) : Regions :=
  ⟨.start region [t], r.inner :: r.outer⟩

def add (r : Regions) (ts : List Token) : Regions :=
  { r with inner := r.inner.add ts }

/-- Leave the angle brackets that nothing closed. -/
def settle (inner : Frame) : List Frame → Regions
  | [] => ⟨inner, []⟩
  | f :: outer => if inner.region = .angle then settle (f.add inner.tokens) outer else ⟨inner, f :: outer⟩

def settled (r : Regions) : Regions :=
  settle r.inner r.outer

/-- Leave the innermost region, which reads as `content`. -/
def leave (r : Regions) (content : List Token) : Regions :=
  match r.outer with
  | [] => r
  | f :: outer => ⟨f.add content, outer⟩

end Regions

/-! ## All lists -/

/-- The region that a bracket opens; `before` are the tokens to its left, nearest one first. -/
def regionAfter (before : List Token) : Region :=
  match before with
  | mark '!' :: word w :: _ => if isSegment w then .fixed else .plain
  | word _ :: mark '!' :: word "macro_rules" :: _ => .fixed
  | mark '#' :: _ => .fixed
  | mark '!' :: mark '#' :: _ => .fixed
  | _ => .plain

/-- One token more. A closing angle bracket is no part of an arrow, and one that opens and an equals sign compare. -/
def step (before : List Token) (r : Regions) (t : Token) : Regions :=
  match r.inner.region, t with
  | .fixed, opening _ => r.enter .fixed t
  | .fixed, closing _ => r.leave (r.inner.tokens ++ [t])
  | .fixed, _ => r.add [t]
  | _, opening _ => r.enter (regionAfter before) t
  | _, closing _ =>
    let r := r.settled
    r.leave (r.inner.tokens ++ [t])
  | _, mark '<' => r.enter .angle t
  | .angle, mark '=' => if before.head? = some (mark '<') then r.leave (r.inner.tokens ++ [t]) else r.add [t]
  | .angle, mark '>' =>
    if before.head? = some (mark '-') ∨ before.head? = some (mark '=') then r.add [t]
    else r.leave (r.inner.arranged ++ [t])
  | .angle, mark ',' => { r with inner := (r.inner.add [t]).endArgument }
  | .angle, mark ';' => r.settled.add [t]
  | _, _ => r.add [t]

/-- `before` are the tokens read so far, last one first -/
def run (before : List Token) (r : Regions) : List Token → Regions
  | [] => r
  | t :: ts => run (t :: before) (step before r t) ts

def lifetimesFirst (ts : List Token) : List Token :=
  (run [] ⟨.start .plain [], []⟩ ts).settled.inner.tokens

example :
    lifetimesFirst [word "f", mark '<', word "u8", mark ',', lifetime "'a", mark '>'] =
      [word "f", mark '<', lifetime "'a", mark ',', word "u8", mark ',', mark '>'] := by decide

example :
    lifetimesFirst [word "a", mark '<', word "b", mark ',', lifetime "'c"] =
      [word "a", mark '<', word "b", mark ',', lifetime "'c"] := by decide

/-- the text of an expression or a bound -/
def sourceText (ts : List Token) : String :=
  text (lifetimesFirst ts)

end Token

end ToolSchema.Item
