/-
Lexemes: the pieces of program text that are not cut further.

Every reader takes the text after some first characters and answers what follows the lexeme that they begin, or nothing
if they begin none. `quotedRest?` reads strings and characters in all their forms, `numeralRest?` numerals,
`blockRest?` comments between slash and star, which nest. None of them answers more than it was given
(`length_of_literalRest?`, `length_of_blockRest?`).
-/
import ToolSchema.Text.Basic
import ToolSchema.Text.Digit
import ToolSchema.Text.Xid

namespace ToolSchema.Item.Lexeme

open Text

/-! ## What stands between quotes -/

inductive Content where
  | text
  | bytes
  /-- text with a zero after it, and so with none inside -/
  | zeroEnded
  deriving DecidableEq

namespace Content

/-- a character that stands for itself -/
def allows (k : Content) (c : Char) : Bool :=
  match k with
  | text => true
  | bytes => c.toNat < 128
  | zeroEnded => c != '\x00'

/-- the two digits after `\x` -/
def allowsByte (k : Content) (a b : Char) : Bool :=
  match hexDigit? a, hexDigit? b with
  | some high, some low =>
    match k with
    | text => high < 8
    | bytes => true
    | zeroEnded => high != 0 || low != 0
  | _, _ => false

/-- The number in braces that a text begins with, its opening brace left out: up to six digits, between which lines may
stand. -/
def code? (cs : List Char) : Option Nat :=
  let body := cs.takeWhile fun c => (hexDigit? c).isSome || c == '_'
  let digits := body.filter (· != '_')
  if cs[body.length]? = some '\x7d' ∧ body.head? ≠ some '_' ∧ 1 ≤ digits.length ∧ digits.length ≤ 6 ∧
      (hexValue digits).isValidChar then
    some (hexValue digits)
  else none

/-- what follows `\u` and a brace -/
def allowsCode (k : Content) (cs : List Char) : Bool :=
  match code? cs, k with
  | none, _ => false
  | some _, text => true
  | some _, bytes => false
  | some n, zeroEnded => n != 0

/-- the letter after a backslash -/
def allowsLetter (k : Content) (c : Char) : Bool :=
  ['n', 'r', 't', '\\', '\'', '"'].contains c || (c == '0' && k != zeroEnded)

end Content

/-- a string after its opening quote; a carriage return needs a line feed after it -/
def stringRest? (k : Content) : List Char → Option (List Char)
  | [] => none
  | '"' :: rest => some rest
  | '\r' :: '\n' :: rest => stringRest? k rest
  | '\\' :: '\n' :: rest => stringRest? k rest
  | '\\' :: '\r' :: '\n' :: rest => stringRest? k rest
  | '\\' :: 'x' :: a :: b :: rest => if k.allowsByte a b then stringRest? k rest else none
  | '\\' :: 'u' :: '\x7b' :: rest => if k.allowsCode rest then stringRest? k rest else none
  | '\\' :: c :: rest => if k.allowsLetter c then stringRest? k rest else none
  | c :: rest => if c == '\r' || c == '\\' || !k.allows c then none else stringRest? k rest

/-- a single character after its opening quote -/
def charRest? (k : Content) : List Char → Option (List Char)
  | '\\' :: 'x' :: a :: b :: '\'' :: rest => if k.allowsByte a b then some rest else none
  | '\\' :: 'u' :: '\x7b' :: cs =>
    if k.allowsCode cs then
      match cs.dropWhile (· != '\x7d') with
      | '\x7d' :: '\'' :: rest => some rest
      | _ => none
    else none
  | '\\' :: c :: '\'' :: rest => if k.allowsLetter c then some rest else none
  | '\\' :: _ => none
  | c :: '\'' :: rest => if k.allows c then some rest else none
  | _ => none

/-- a string without escapes, after its opening quote: it ends at a quote with these hash signs after it -/
def verbatimRest? (k : Content) (hashes : List Char) : List Char → Option (List Char)
  | [] => none
  | '\r' :: '\n' :: rest => verbatimRest? k hashes rest
  | '"' :: rest => if hashes.isPrefixOf rest then some (rest.drop hashes.length) else verbatimRest? k hashes rest
  | c :: rest => if c == '\r' || !k.allows c then none else verbatimRest? k hashes rest

/-- a string without escapes, from the hash signs before its opening quote on -/
def hashedRest? (k : Content) (cs : List Char) : Option (List Char) :=
  let hashes := cs.takeWhile (· == '#')
  match cs.dropWhile (· == '#') with
  | '"' :: body => if hashes.length < 256 then verbatimRest? k hashes body else none
  | _ => none

/-- a string or a character in any of its forms -/
def quotedRest? : List Char → Option (List Char)
  | '"' :: cs => stringRest? .text cs
  | '\'' :: cs => charRest? .text cs
  | 'r' :: cs => hashedRest? .text cs
  | 'b' :: '"' :: cs => stringRest? .bytes cs
  | 'b' :: '\'' :: cs => charRest? .bytes cs
  | 'b' :: 'r' :: cs => hashedRest? .bytes cs
  | 'c' :: '"' :: cs => stringRest? .zeroEnded cs
  | 'c' :: 'r' :: cs => hashedRest? .zeroEnded cs
  | _ => none

/-- the beginnings of strings and characters that are no beginnings of names -/
def quotedLeads : List (List Char) :=
  ["r\"", "r#\"", "r##", "b\"", "b'", "br\"", "br#", "c\"", "cr\"", "cr#"].map String.toList

/-! ## Numerals -/

def isDecimalPart (c : Char) : Bool :=
  c.isDigit || c == '_'

/-- digits below a base with lines between them, at least one, and then nothing or a name -/
def hasDigits (base : Nat) (cs : List Char) : Bool :=
  let run := cs.takeWhile fun c => isDecimalPart c || (base == 16 && (hexDigit? c).isSome)
  let digits := run.filterMap hexDigit?
  !digits.isEmpty && digits.all (· < base) && (cs.drop run.length).head?.all startsWord

/-- the characters of a numeral up to its point, its first one a digit -/
def isNumeral : List Char → Bool
  | '0' :: 'b' :: cs => hasDigits 2 cs
  | '0' :: 'o' :: cs => hasDigits 8 cs
  | '0' :: 'x' :: cs => hasDigits 16 cs
  | cs => hasDigits 10 cs

/-- the digits after a point, if a point and a digit come next -/
def fraction? : List Char → Option (List Char × List Char)
  | '.' :: c :: cs =>
    if c.isDigit then some (c :: cs.takeWhile continuesWord, cs.dropWhile continuesWord) else none
  | _ => none

/-- A numeral. The sign of an exponent is a mark of its own. -/
def numeralRest? : List Char → Option (List Char)
  | [] => none
  | c :: cs =>
    let whole := c :: cs.takeWhile continuesWord
    let rest := cs.dropWhile continuesWord
    if c.isDigit && isNumeral whole then
      match fraction? rest with
      | some (digits, after) =>
        if !whole.all isDecimalPart then some rest else if hasDigits 10 digits then some after else none
      | none => some rest
    else none

/-- a literal, with the name that may be written behind it -/
def literalRest? (cs : List Char) : Option (List Char) :=
  match quotedRest? cs with
  | some rest => some (afterWord rest)
  | none => numeralRest? cs

/-! ## Comments -/

/-- a comment after its slash and star, inside of `depth` others -/
def blockRest? (depth : Nat) : List Char → Option (List Char)
  | [] => none
  | '/' :: '*' :: rest => blockRest? (depth + 1) rest
  | '*' :: '/' :: rest => if depth = 0 then some rest else blockRest? (depth - 1) rest
  | _ :: rest => blockRest? depth rest

/-! ## Lengths -/

theorem length_of_stringRest? {k : Content} {cs rest : List Char} (h : stringRest? k cs = some rest) :
    rest.length < cs.length := by
  fun_induction stringRest? k cs <;> simp_all <;> omega

theorem length_of_charRest? {k : Content} {cs rest : List Char} (h : charRest? k cs = some rest) :
    rest.length < cs.length := by
  unfold charRest? at h
  split at h
  · simp only [Option.ite_none_right_eq_some, Option.some.injEq] at h
    simp only [List.length_cons, h.2]
    omega
  · rename_i cs
    have hd := (List.dropWhile_sublist (· != '\x7d') (l := cs)).length_le
    split at h
    · split at h
      · rename_i hs
        simp only [Option.some.injEq] at h
        rw [hs] at hd
        simp only [List.length_cons, h] at hd ⊢
        omega
      · simp at h
    · simp at h
  · simp only [Option.ite_none_right_eq_some, Option.some.injEq] at h
    simp only [List.length_cons, h.2]
    omega
  · simp at h
  · simp only [Option.ite_none_right_eq_some, Option.some.injEq] at h
    simp only [List.length_cons, h.2]
    omega
  · simp at h

theorem length_of_verbatimRest? {k : Content} {hashes cs rest : List Char}
    (h : verbatimRest? k hashes cs = some rest) : rest.length < cs.length := by
  fun_induction verbatimRest? k hashes cs with
  | case3 after _ =>
    simp only [Option.some.injEq] at h
    subst h
    simp only [List.length_drop, List.length_cons]
    omega
  | _ => simp_all <;> omega

theorem length_of_hashedRest? {k : Content} {cs rest : List Char} (h : hashedRest? k cs = some rest) :
    rest.length < cs.length := by
  have hd := (List.dropWhile_sublist (· == '#') (l := cs)).length_le
  simp only [hashedRest?] at h
  split at h
  · rename_i body hb
    rw [hb] at hd
    split at h
    · have := length_of_verbatimRest? h
      simp only [List.length_cons] at hd
      omega
    · simp at h
  · simp at h

theorem length_of_quotedRest? {cs rest : List Char} (h : quotedRest? cs = some rest) : rest.length < cs.length := by
  unfold quotedRest? at h
  split at h
  · exact Nat.lt_succ_of_lt (length_of_stringRest? h)
  · exact Nat.lt_succ_of_lt (length_of_charRest? h)
  · exact Nat.lt_succ_of_lt (length_of_hashedRest? h)
  · exact Nat.lt_succ_of_lt (Nat.lt_succ_of_lt (length_of_stringRest? h))
  · exact Nat.lt_succ_of_lt (Nat.lt_succ_of_lt (length_of_charRest? h))
  · exact Nat.lt_succ_of_lt (Nat.lt_succ_of_lt (length_of_hashedRest? h))
  · exact Nat.lt_succ_of_lt (Nat.lt_succ_of_lt (length_of_stringRest? h))
  · exact Nat.lt_succ_of_lt (Nat.lt_succ_of_lt (length_of_hashedRest? h))
  · simp at h

theorem length_of_fraction? {cs digits rest : List Char} (h : fraction? cs = some (digits, rest)) :
    rest.length < cs.length := by
  unfold fraction? at h
  split at h
  · rename_i c cs
    simp only [Option.ite_none_right_eq_some, Option.some.injEq, Prod.mk.injEq] at h
    have hd := (List.dropWhile_sublist continuesWord (l := cs)).length_le
    rw [h.2.2] at hd
    simp only [List.length_cons]
    omega
  · simp at h

theorem length_of_numeralRest? {cs rest : List Char} (h : numeralRest? cs = some rest) : rest.length < cs.length := by
  cases cs with
  | nil => simp [numeralRest?] at h
  | cons c cs =>
    have hd := (List.dropWhile_sublist continuesWord (l := cs)).length_le
    have hf := @length_of_fraction? (cs.dropWhile continuesWord)
    simp only [numeralRest?] at h
    split at h
    · split at h
      · rename_i digits after ha
        have := hf ha
        split at h
        · simp only [Option.some.injEq] at h
          rw [h] at hd
          exact Nat.lt_succ_of_le hd
        · simp only [Option.ite_none_right_eq_some, Option.some.injEq] at h
          rw [h.2] at this
          exact Nat.lt_succ_of_le (Nat.le_trans (Nat.le_of_lt this) hd)
      · simp only [Option.some.injEq] at h
        rw [h] at hd
        exact Nat.lt_succ_of_le hd
    · simp at h

theorem length_of_literalRest? {cs rest : List Char} (h : literalRest? cs = some rest) : rest.length < cs.length := by
  unfold literalRest? at h
  split at h
  · rename_i after hq
    have h1 := length_of_quotedRest? hq
    have h2 := length_afterWord_le after
    simp only [Option.some.injEq] at h
    rw [h] at h2
    omega
  · exact length_of_numeralRest? h

theorem length_of_blockRest? {depth : Nat} {cs rest : List Char} (h : blockRest? depth cs = some rest) :
    rest.length < cs.length := by
  fun_induction blockRest? depth cs <;> simp_all <;> omega

end ToolSchema.Item.Lexeme
