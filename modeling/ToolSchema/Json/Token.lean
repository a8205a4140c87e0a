/-
Tokens of JSON text.

`tokens?` cuts a text into brackets, separators, strings and scalars and drops the blanks between them. It refuses what
is no token: an unknown word, a malformed numeral, a raw control character or half a surrogate pair inside a string.
-/
import ToolSchema.Json.Numeral
import ToolSchema.Text.Digit

namespace ToolSchema.Json

open Text (hexDigit?)

inductive Token where
  | openArray
  | closeArray
  | openObject
  | closeObject
  | comma
  | colon
  | string (value : String)
  /-- null, a truth value or a number -/
  | scalar (value : Json)

namespace Token

/-! ## Strings -/

def hex4? (a b c d : Char) : Option Nat := do
  let a ← hexDigit? a
  let b ← hexDigit? b
  let c ← hexDigit? c
  let d ← hexDigit? d
  return ((a * 16 + b) * 16 + c) * 16 + d

/-- the character that a letter after a backslash stands for -/
def shortEscape? (c : Char) : Option Char :=
  match c with
  | '"' => some '"'
  | '\\' => some '\\'
  | '/' => some '/'
  | 'b' => some '\x08'
  | 'f' => some '\x0c'
  | 'n' => some '\n'
  | 'r' => some '\r'
  | 't' => some '\t'
  | _ => none

/-- the first half of a surrogate pair -/
def isHigh (n : Nat) : Bool := 0xD800 ≤ n && n < 0xDC00

/-- the second half of a surrogate pair -/
def isLow (n : Nat) : Bool := 0xDC00 ≤ n && n < 0xE000

/-- The body of a string after its opening quote, and the text after its closing one. `done` holds what was read so far,
last character first. -/
def body? (done : List Char) : List Char → Option (String × List Char)
  | [] => none
  | '"' :: rest => some (String.ofList done.reverse, rest)
  | '\\' :: 'u' :: a :: b :: c :: d :: '\\' :: 'u' :: a' :: b' :: c' :: d' :: rest =>
    match hex4? a b c d, hex4? a' b' c' d' with
    | some n, some m =>
      if isHigh n then
        if isLow m then body? (Char.ofNat (0x10000 + (n - 0xD800) * 0x400 + (m - 0xDC00)) :: done) rest else none
      else if isLow n then none
      else body? (Char.ofNat n :: done) ('\\' :: 'u' :: a' :: b' :: c' :: d' :: rest)
    | _, _ => none
  | '\\' :: 'u' :: a :: b :: c :: d :: rest =>
    match hex4? a b c d with
    | some n => if isHigh n || isLow n then none else body? (Char.ofNat n :: done) rest
    | none => none
  | '\\' :: c :: rest =>
    match shortEscape? c with
    | some e => body? (e :: done) rest
    | none => none
  | c :: rest => if c.toNat < 32 || c == '\\' then none else body? (c :: done) rest

theorem length_of_body? {done cs rest : List Char} {s : String} (h : body? done cs = some (s, rest)) :
    rest.length < cs.length := by
  fun_induction body? done cs <;> simp_all <;> omega

/-! ## All tokens -/

def isBlank (c : Char) : Bool :=
  c == ' ' || c == '\n' || c == '\t' || c == '\r'

/-- characters of words and numerals -/
def isWordChar (c : Char) : Bool :=
  c.isAlphanum || c == '+' || c == '-' || c == '.'

def scalar? (cs : List Char) : Option Json :=
  if cs = ['n', 'u', 'l', 'l'] then some .null
  else if cs = ['t', 'r', 'u', 'e'] then some (.bool true)
  else if cs = ['f', 'a', 'l', 's', 'e'] then some (.bool false)
  else (Numeral.ofChars? cs).bind fun x => x.toNumber?.map .number

def punctuation? (c : Char) : Option Token :=
  match c with
  | '[' => some .openArray
  | ']' => some .closeArray
  | '\x7b' => some .openObject
  | '\x7d' => some .closeObject
  | ',' => some .comma
  | ':' => some .colon
  | _ => none

/-- The tokens of a text. `done` holds those read so far, last one first. -/
def collect? (done : List Token) : List Char → Option (List Token)
  | [] => some done.reverse
  | c :: cs =>
    if isBlank c then collect? done cs
    else if c = '"' then
      match _h : body? [] cs with
      | some (s, rest) => collect? (.string s :: done) rest
      | none => none
    else
      match punctuation? c with
      | some t => collect? (t :: done) cs
      | none =>
        match scalar? (c :: cs.takeWhile isWordChar) with
        | some j => collect? (.scalar j :: done) (cs.dropWhile isWordChar)
        | none => none
termination_by cs => cs.length
decreasing_by
  · simp
  · have := length_of_body? _h
    simp only [List.length_cons]
    omega
  · simp
  · have := (List.dropWhile_sublist isWordChar (l := cs)).length_le
    simp only [List.length_cons]
    omega

def ofText? (text : String) : Option (List Token) :=
  collect? [] text.toList

end Token

end ToolSchema.Json
