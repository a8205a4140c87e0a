/-
Tokens of program text.

`ofText?` cuts a text into names, lifetimes, literals, marks and brackets and drops the blanks and comments between
them. A documentation comment is the attribute that it stands for. The text is part of a longer one, so a comment that
runs to the end of its line needs that end. Brackets must match. `text` writes tokens with nothing between them.
-/
import ToolSchema.Item.Lexeme
import ToolSchema.Text.Quoted

namespace ToolSchema.Item

open Text

inductive Bracket where
  | round
  | square
  | curly
  deriving DecidableEq

inductive Token where
  /-- a name or a keyword -/
  | word (text : String)
  /-- the name of a lifetime, with its quote -/
  | lifetime (text : String)
  | literal (text : String)
  | mark (char : Char)
  | opening (bracket : Bracket)
  | closing (bracket : Bracket)
  deriving DecidableEq

namespace Token

/-! ## Text of tokens -/

def chars : Token → List Char
  | word s => s.toList
  | lifetime s => s.toList
  | literal s => s.toList
  | mark c => [c]
  | opening .round => ['(']
  | opening .square => ['[']
  | opening .curly => ['\x7b']
  | closing .round => [')']
  | closing .square => [']']
  | closing .curly => ['\x7d']

/-- the text of tokens, without blanks between them -/
def text (ts : List Token) : String :=
  String.ofList (ts.flatMap chars)

/-! ## Blanks and comments -/

/-- blanks, and the two marks of direction -/
def isSpace (c : Char) : Bool :=
  isBlank c || c == '\u200e' || c == '\u200f'

/-- every carriage return has a line feed after it -/
def endsLines : List Char → Bool
  | [] => true
  | '\r' :: '\n' :: cs => endsLines cs
  | c :: cs => c != '\r' && endsLines cs

/-- The attribute of a documentation comment; `inner` is for one that documents what it stands in. -/
def documentation? (inner : Bool) (comment : List Char) : Option (List Token) :=
  if endsLines comment then
    some ([.mark '#'] ++ (if inner then [.mark '!'] else []) ++
      [.opening .square, .word "doc", .mark '=', .literal (String.ofList (quote comment)), .closing .square])
  else none

/-- what a comment between slash and star says, its first slash and star and its last star and slash left out -/
def block? (comment : List Char) : Option (List Token) :=
  match comment with
  | '!' :: inside => documentation? true inside
  | '*' :: '*' :: _ => some []
  | ['*'] => some []
  | '*' :: inside => documentation? false inside
  | _ => some []

/-- what a comment to the end of its line says, its first two slashes and the end of the line left out -/
def line? (comment : List Char) : Option (List Token) :=
  match comment with
  | '!' :: inside => documentation? true (dropReturn inside)
  | '/' :: '/' :: _ => some []
  | '/' :: inside => documentation? false (dropReturn inside)
  | _ => some []

/-- a comment after its first slash, and what follows it -/
def comment? : List Char → Option (List Token × List Char)
  | '/' :: cs =>
    match cs.dropWhile (· != '\n') with
    | _ :: rest => (line? (cs.takeWhile (· != '\n'))).map fun ts => (ts, rest)
    | [] => none
  | '*' :: cs =>
    match Lexeme.blockRest? 0 cs with
    | some rest => (block? (cs.take (cs.length - rest.length - 2))).map fun ts => (ts, rest)
    | none => none
  | _ => none

/-! ## Single tokens -/

def marks : List Char := "~!@#$%^&*-=+|;:,<.>/?".toList

/-- the names that are names of their own and of nothing else -/
def pathKeywords : List String := ["self", "super", "Self", "crate"]

def bracket? (c : Char) : Option Token :=
  match c with
  | '(' => some (.opening .round)
  | '[' => some (.opening .square)
  | '\x7b' => some (.opening .curly)
  | ')' => some (.closing .round)
  | ']' => some (.closing .square)
  | '\x7d' => some (.closing .curly)
  | _ => none

/-- A name and what follows it. The mark `r#` goes before a name that would be a keyword without it. -/
def word? : List Char → Option (List Char × List Char)
  | 'r' :: '#' :: cs =>
    if leadingWord cs = [] ∨ String.ofList (leadingWord cs) ∈ "_" :: pathKeywords then none
    else some ('r' :: '#' :: leadingWord cs, afterWord cs)
  | cs => if leadingWord cs = [] then none else some (leadingWord cs, afterWord cs)

/-- A lifetime after its quote. A name with a quote on both sides would be a character. -/
def lifetime? (cs : List Char) : Option (Token × List Char) :=
  match word? cs with
  | some (w, rest) =>
    if rest.head? = some '\'' ∨ (rest.head? = some '#' ∧ cs.take 2 ≠ ['r', '#']) then none
    else some (.lifetime (String.ofList ('\'' :: w)), rest)
  | none => none

/-- The token that a text begins with, and what follows it. -/
def first? (cs : List Char) : Option (Token × List Char) :=
  match Lexeme.literalRest? cs, cs with
  | some rest, _ => some (.literal (String.ofList (cs.take (cs.length - rest.length))), rest)
  | none, [] => none
  | none, '\'' :: after => lifetime? after
  | none, c :: after =>
    match bracket? c with
    | some t => some (t, after)
    | none =>
      if marks.contains c then some (.mark c, after)
      else if Lexeme.quotedLeads.any (·.isPrefixOf cs) then none
      else (word? cs).map fun (w, rest) => (.word (String.ofList w), rest)

/-! ## Lengths -/

theorem length_of_comment? {cs rest : List Char} {ts : List Token} (h : comment? cs = some (ts, rest)) :
    rest.length < cs.length := by
  unfold comment? at h
  split at h
  · rename_i cs
    have hd := (List.dropWhile_sublist (· != '\n') (l := cs)).length_le
    split at h
    · rename_i after hs
      simp only [Option.map_eq_some_iff, Prod.mk.injEq] at h
      obtain ⟨-, -, -, ha⟩ := h
      rw [hs, ha] at hd
      simp only [List.length_cons] at hd ⊢
      omega
    · simp at h
  · split at h
    · rename_i after hb
      simp only [Option.map_eq_some_iff, Prod.mk.injEq] at h
      obtain ⟨-, -, -, ha⟩ := h
      rw [ha] at hb
      exact Nat.lt_succ_of_lt (Lexeme.length_of_blockRest? hb)
    · simp at h
  · simp at h

theorem length_afterWord_lt {cs : List Char} (h : leadingWord cs ≠ []) : (afterWord cs).length < cs.length := by
  have hl := congrArg List.length (leadingWord_append_afterWord cs)
  have := List.length_pos_iff.2 h
  simp only [List.length_append] at hl
  omega

theorem length_of_word? {cs w rest : List Char} (h : word? cs = some (w, rest)) : rest.length < cs.length := by
  unfold word? at h
  split at h
  · simp only [Option.ite_none_left_eq_some, Option.some.injEq, Prod.mk.injEq, not_or] at h
    have := length_afterWord_lt h.1.1
    rw [h.2.2] at this
    exact Nat.lt_succ_of_lt (Nat.lt_succ_of_lt this)
  · simp only [Option.ite_none_left_eq_some, Option.some.injEq, Prod.mk.injEq] at h
    have := length_afterWord_lt h.1
    rwa [h.2.2] at this

theorem length_of_lifetime? {cs rest : List Char} {t : Token} (h : lifetime? cs = some (t, rest)) :
    rest.length < cs.length := by
  unfold lifetime? at h
  split at h
  · rename_i w after hw
    simp only [Option.ite_none_left_eq_some, Option.some.injEq, Prod.mk.injEq] at h
    rw [h.2.2] at hw
    exact length_of_word? hw
  · simp at h

theorem length_of_first? {cs rest : List Char} {t : Token} (h : first? cs = some (t, rest)) :
    rest.length < cs.length := by
  unfold first? at h
  split at h
  · rename_i after hl
    simp only [Option.some.injEq, Prod.mk.injEq] at h
    rw [h.2] at hl
    exact Lexeme.length_of_literalRest? hl
  · simp at h
  · exact Nat.lt_succ_of_lt (length_of_lifetime? h)
  · split at h
    · simp only [Option.some.injEq, Prod.mk.injEq] at h
      simp only [List.length_cons, h.2]
      omega
    · split at h
      · simp only [Option.some.injEq, Prod.mk.injEq] at h
        simp only [List.length_cons, h.2]
        omega
      · split at h
        · simp at h
        · simp only [Option.map_eq_some_iff, Prod.mk.injEq, Prod.exists] at h
          obtain ⟨w, after, hw, -, ha⟩ := h
          rw [ha] at hw
          exact length_of_word? hw

/-! ## All tokens -/

/-- The tokens of a text. `done` holds those read so far, last one first. -/
def collect? (done : List Token) : List Char → Option (List Token)
  | [] => some done.reverse
  | c :: cs =>
    if isSpace c then collect? done cs
    else if c = '/' ∧ (cs.head? = some '/' ∨ cs.head? = some '*') then
      match _h : comment? cs with
      | some (ts, rest) => collect? (ts.reverse ++ done) rest
      | none => none
    else
      match _h : first? (c :: cs) with
      | some (t, rest) => collect? (t :: done) rest
      | none => none
termination_by cs => cs.length
decreasing_by
  · simp
  · exact Nat.lt_succ_of_lt (length_of_comment? _h)
  · exact length_of_first? _h

/-- Every bracket is closed by its own kind; `openings` are those that are open, innermost first. -/
def isNested (openings : List Bracket) : List Token → Bool
  | [] => openings.isEmpty
  | opening b :: ts => isNested (b :: openings) ts
  | closing b :: ts =>
    match openings with
    | [] => false
    | b' :: outer => b == b' && isNested outer ts
  | _ :: ts => isNested openings ts

/-- the bracket around the tokens, and the tokens inside of it -/
def group? : List Token → Option (Bracket × List Token)
  | opening b :: ts =>
    if ts.getLast? = some (closing b) ∧ isNested [] ts.dropLast then some (b, ts.dropLast) else none
  | _ => none

def ofText? (source : String) : Option (List Token) :=
  match collect? [] source.toList with
  | some ts => if isNested [] ts then some ts else none
  | none => none

example : (ofText? "1 /* one */ + f(' ')").map text = some "1+f(' ')" := by decide +kernel

example : (ofText? "/** one */ 'a").map text = some "#[doc=\" one \"]'a" := by decide +kernel

example : ofText? "1 // one" = none := by decide +kernel

example : ofText? "(1]" = none := by decide +kernel

end Token

end ToolSchema.Item
