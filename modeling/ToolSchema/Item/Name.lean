/-
Names and paths of program text.

A name is a word that is no keyword, or one that the mark `r#` keeps from being a keyword; `plainName` drops the mark. A
path is made of segments with double colons between them; `self`, `super`, `Self` and `crate` are segments but no names.
-/
import ToolSchema.Item.Token

namespace ToolSchema.Item

/-! ## Names -/

/-- what marks a name that is written like a keyword -/
def rawMark : String := "r#"

/-- a name without the mark -/
def plainName (name : String) : String :=
  if rawMark.toList.isPrefixOf name.toList then String.ofList (name.toList.drop rawMark.length) else name

def keywords : List String :=
  ["abstract", "as", "async", "await", "become", "box", "break", "const", "continue", "crate", "do", "dyn", "else",
    "enum", "extern", "false", "final", "fn", "for", "if", "impl", "in", "let", "loop", "macro", "match", "mod", "move",
    "mut", "override", "priv", "pub", "ref", "return", "Self", "self", "static", "struct", "super", "trait", "true",
    "try", "type", "typeof", "unsafe", "unsized", "use", "virtual", "where", "while", "yield"]

/-- a word that can name something -/
def isName (word : String) : Bool :=
  word != "_" && !keywords.contains word

/-- the name that a text is -/
def name? (source : String) : Option String :=
  match Token.ofText? source with
  | some [.word w] => if isName w then some w else none
  | _ => none

/-- the lifetime that a text is -/
def lifetime? (source : String) : Option String :=
  match Token.ofText? source with
  | some [.lifetime l] => some l
  | _ => none

/-! ## Paths -/

/-- a token that paths are made of -/
def isPathToken : Token → Bool
  | .word _ => true
  | .mark ':' => true
  | _ => false

def isSegment (word : String) : Bool :=
  isName word || Token.pathKeywords.contains word

/-- segments with double colons between them -/
def isSegments : List Token → Bool
  | [.word w] => isSegment w
  | .word w :: .mark ':' :: .mark ':' :: ts => isSegment w && isSegments ts
  | _ => false

/-- segments, after a double colon or not -/
def isPath : List Token → Bool
  | .mark ':' :: .mark ':' :: ts => isSegments ts
  | ts => isSegments ts

/-- the path that a text is -/
def path? (source : String) : Option (List Token) :=
  match Token.ofText? source with
  | some ts => if isPath ts then some ts else none
  | none => none

/-! ## Visibility -/

/-- who may use an item: nobody outside, everybody, or those in some part of the program -/
def isVisibility : List Token → Bool
  | [] => true
  | [.word "pub"] => true
  | [.word "pub", .opening .round, .word w, .closing .round] => ["crate", "self", "super"].contains w
  | .word "pub" :: .opening .round :: .word "in" :: ts =>
    ts.getLast? = some (.closing .round) && isPath ts.dropLast
  | _ => false

/-- the visibility that a text is -/
def visibility? (source : String) : Option String :=
  match Token.ofText? source with
  | some ts => if isVisibility ts then some (Token.text ts) else none
  | none => none

end ToolSchema.Item
