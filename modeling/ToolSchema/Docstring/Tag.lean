/-
Parameter documentation in tags: `:param name: text`, `:type name: type`, `:returns: text`.

A tag takes the lines up to the next tag. Any word between colons at the start of a line is a tag; one of an unknown
kind takes its lines away from the tag before it and is left out.
-/
import ToolSchema.Docstring.Findings

namespace ToolSchema.Docstring

open Text

inductive Tag where
  | param (name : Line) (typeName : Option Line) (text : Line)
  | type (name typeName : Line)
  | returns (text : Line)
  | other

namespace Tag

def paramWords : List String := ["param", "parameter", "arg", "argument", "key", "keyword"]

def returnWords : List String := ["return", "returns"]

/-- a parameter tag from the words after its first one: perhaps a type, then the name -/
def ofParam? (words : List Line) (text : Line) : Option Tag := do
  let name := bareName (← words.getLast?)
  if isIdentifier name then
    let typeWords := words.dropLast
    some (.param name (if typeWords.isEmpty then none else some ([' '].intercalate typeWords)) (trim text))
  else some .other

/-- the tag that a line begins with -/
def ofLine? (line : Line) : Option Tag := do
  let rest ← dropPrefix? [':'] (trim line)
  let (head, text) ← splitOnce ':' rest
  match words head with
  | [] => none
  | word :: more =>
    if isOneOf paramWords word then ofParam? more text
    else if isOneOf ["type"] word then more.head?.map fun name => .type (bareName name) (trim text)
    else if isOneOf returnWords word && more.isEmpty then some (.returns (trim text))
    else some .other

/-- a tag that documents something -/
def isMarker : Tag → Bool
  | .other => false
  | _ => true

/-! ## Findings -/

/-- the entry of a parameter tag and its lines -/
def entry? : Tag × List Line → Option Entry
  | (.param name typeName text, more) => some ⟨name, typeName, text :: more⟩
  | _ => none

def returnText? : Tag × List Line → Option (List Line)
  | (.returns text, more) => some (text :: more)
  | _ => none

def typing? : Tag × List Line → Option (Line × Line)
  | (.type name typeName, _) => some (name, typeName)
  | _ => none

/-- give a type to the first entry of a name, unless it has one -/
def assign (entries : List Entry) (name typeName : Line) : List Entry :=
  match entries with
  | [] => []
  | e :: rest =>
    if e.name = name then
      { e with typeName := e.typeName.or (if typeName.isEmpty then none else some typeName) } :: rest
    else e :: assign rest name typeName

def findings (ls : List Line) : Findings :=
  let all := blocks ofLine? ls
  { prose := ls.takeWhile fun l => (ofLine? l).isNone
    entries := (all.filterMap typing?).foldl (fun entries t => assign entries t.1 t.2) (all.filterMap entry?)
    returns := flattenSome (all.filterMap returnText?) }

/-- some line begins with a tag that documents something -/
def detect (ls : List Line) : Bool :=
  ls.any fun l => (ofLine? l).any isMarker

end Tag

end ToolSchema.Docstring
