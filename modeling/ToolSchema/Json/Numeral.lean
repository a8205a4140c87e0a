/-
Numerals of JSON text and the numbers they stand for.

A numeral without point and exponent that fits a signed or an unsigned 64-bit word is a whole number; `-0` and every
other numeral is a binary64 value. That value is `scale? s e`: s is made of the first digits, as many as fit 64 bits,
and s · 10^e is computed in binary64 with one multiplication or division. A value beyond the finite ones is refused.
-/
import ToolSchema.Json.Basic

namespace ToolSchema.Json

/-- the parts of a numeral; digits are numbers below ten -/
structure Numeral where
  negative : Bool
  whole : List Nat
  fraction : List Nat
  exponent : Int
  /-- neither point nor exponent was written -/
  plain : Bool

namespace Numeral

/-! ## Reading -/

def digit? (c : Char) : Option Nat :=
  if c.isDigit then some (c.toNat - '0'.toNat) else none

/-- the leading digits and what follows them -/
def digits (cs : List Char) : List Nat × List Char :=
  ((cs.takeWhile Char.isDigit).filterMap digit?, cs.dropWhile Char.isDigit)

def natOf (ds : List Nat) : Nat :=
  ds.foldl (fun n d => 10 * n + d) 0

/-- the part from `e` or `E` on, to the end -/
def exponent? : List Char → Option Int
  | 'e' :: cs => signed? cs
  | 'E' :: cs => signed? cs
  | _ => none
where
  signed? : List Char → Option Int
    | '-' :: cs => (unsigned? cs).map fun n => -(n : Int)
    | '+' :: cs => (unsigned? cs).map fun n => (n : Int)
    | cs => (unsigned? cs).map fun n => (n : Int)
  unsigned? (cs : List Char) : Option Nat :=
    match digits cs with
    | ([], _) => none
    | (ds, []) => some (natOf ds)
    | (_, _ :: _) => none

/-- what may follow the whole part -/
def afterWhole? (negative : Bool) (whole : List Nat) : List Char → Option Numeral
  | [] => some ⟨negative, whole, [], 0, true⟩
  | '.' :: cs =>
    match digits cs with
    | ([], _) => none
    | (fraction, []) => some ⟨negative, whole, fraction, 0, false⟩
    | (fraction, rest) => (exponent? rest).map fun e => ⟨negative, whole, fraction, e, false⟩
  | rest => (exponent? rest).map fun e => ⟨negative, whole, [], e, false⟩

/-- The whole text as one numeral. A zero may begin the whole part only if it is all of it. -/
def ofChars? (cs : List Char) : Option Numeral :=
  let (negative, body) : Bool × List Char :=
    match cs with
    | '-' :: rest => (true, rest)
    | _ => (false, cs)
  match digits body with
  | ([], _) => none
  | (0 :: _ :: _, _) => none
  | (whole, rest) => afterWhole? negative whole rest

/-! ## Value -/

/-- how many numbers fit 64 bits: 2^64 -/
def wordSize : Nat := 0x10000000000000000

/-- append digits while the number fits 64 bits; what is left begins with the digit that does not fit -/
def appendDigits (n : Nat) : List Nat → Nat × List Nat
  | [] => (n, [])
  | d :: ds => if 10 * n + d < wordSize then appendDigits (10 * n + d) ds else (n, d :: ds)

/-- ten to a power of at most 308, as the nearest binary64 value -/
def powerOfTen (e : Nat) : Float :=
  Float.ofScientific 1 false e

/-- the quotient `f / 10^e`, at most 308 places at a time -/
def descend (f : Float) (e : Nat) : Float :=
  if _h : e ≤ 308 then f / powerOfTen e
  else if f == 0 then f
  else descend (f / powerOfTen 308) (e - 308)
termination_by e

/-- the product `s · 10^e` for a 64-bit `s`; nothing if that is beyond the finite values -/
def scale? (s : Nat) (e : Int) : Option Float :=
  let f := s.toUInt64.toFloat
  if e < 0 then some (descend f e.natAbs)
  else if s = 0 then some f
  else if 308 < e then none
  else
    let product := f * powerOfTen e.toNat
    if product.isInf then none else some product

def toNumber? (x : Numeral) : Option Number :=
  let (s, dropped) := appendDigits 0 x.whole
  if x.plain ∧ dropped.isEmpty ∧ (if x.negative then 0 < s ∧ 2 * s ≤ wordSize else True) then
    some (.int (if x.negative then -(s : Int) else s))
  else
    let (t, ignored) := appendDigits s x.fraction
    let places := x.fraction.length - ignored.length
    (scale? t ((dropped.length : Int) - places + x.exponent)).map fun f =>
      .float (if x.negative then (-f).toBits else f.toBits)

end Numeral

end ToolSchema.Json
