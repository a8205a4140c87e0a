/-
The decimal text of a binary64 value.

A finite value is m · 2^q (`ofBits`). The reals that round to it form an interval, ends included when m is even.
`shortest` takes the coarsest decimal grid with a point in that interval, and of two such points the nearer one; all
comparisons are between natural numbers. `Layout` holds what the format decides: where positional notation ends.
-/
namespace ToolSchema.Double

/-! ## Decoding -/

/-- The value `mantissa · 2^exponent`. At a power of two, the next value below is only half as far away as the next
above. -/
structure Finite where
  negative : Bool
  mantissa : Nat
  exponent : Int
  atPower : Bool

/-- the first bit of a fraction, which is not written: 2^52 -/
def hiddenBit : Nat := 0x10000000000000

/-- sign, exponent and fraction of the 64 bits; the codes for infinities and NaN read as if they went on -/
def ofBits (bits : UInt64) : Finite :=
  let n := bits.toNat
  let fraction : Nat := n % hiddenBit
  let code : Nat := n / hiddenBit % 0x800
  let negative := n / 0x8000000000000000 == 1
  if code = 0 then ⟨negative, fraction, -1074, false⟩
  else ⟨negative, hiddenBit + fraction, (code : Int) - 1075, fraction = 0 ∧ 1 < code⟩

/-! ## Shortest digits -/

/-- the number `digits · 10^exponent` -/
structure Decimal where
  digits : Nat
  exponent : Int

/-- how many decimal digits are written for `n` -/
def width (n : Nat) : Nat :=
  (Nat.toDigits 10 n).length

/-- the product `x · 2^twos · 10^tens` as a fraction -/
def fraction (x : Nat) (twos tens : Int) : Nat × Nat :=
  (x * Nat.pow 2 twos.toNat * Nat.pow 10 tens.toNat, Nat.pow 2 (-twos).toNat * Nat.pow 10 (-tens).toNat)

/-- the exponent of the first decimal digit of a positive value `num / den` -/
def leading (num den : Nat) : Int :=
  if den ≤ num then (width (num / den) : Int) - 1
  else
    let w := width (den / num)
    if den ≤ num * Nat.pow 10 (w - 1) then 1 - (w : Int) else -(w : Int)

/-- The point of the grid `10^unit` that stands for the value: a neighbour of the value that lies in its interval, the
nearer one if both do, and of two equally near ones the even one. -/
def onGrid? (x : Finite) (unit : Int) : Option Nat :=
  let scaled (quarters : Nat) := (fraction quarters (x.exponent - 2) (-unit)).1
  let den := (fraction 1 (x.exponent - 2) (-unit)).2
  let mid := scaled (4 * x.mantissa)
  let low := scaled (4 * x.mantissa - (if x.atPower then 1 else 2))
  let high := scaled (4 * x.mantissa + 2)
  let inside (point : Nat) : Bool :=
    if x.mantissa % 2 = 0 then low ≤ point * den ∧ point * den ≤ high else low < point * den ∧ point * den < high
  let below := mid / den
  let above := below + 1
  match inside below, inside above with
  | true, true =>
    let down := mid - below * den
    let up := above * den - mid
    if down < up ∨ (down = up ∧ below % 2 = 0) then some below else some above
  | true, false => some below
  | false, true => some above
  | false, false => none

/-- the fewest digits that read back; seventeen always do -/
def shortest (x : Finite) : Decimal :=
  let start := leading (fraction (4 * x.mantissa) (x.exponent - 2) 0).1 (fraction 1 (x.exponent - 2) 0).2
  let at? (count : Nat) : Option Decimal :=
    let unit := start + 1 - (count : Int)
    (onGrid? x unit).map (⟨·, unit⟩)
  ((List.range 17).findSome? fun n => at? (n + 1)).getD ⟨0, 0⟩

/-! ## Layout -/

/-- The exponents of the first digit that are written positionally: from `low` on and below `high`. -/
structure Layout where
  low : Int
  high : Int

/-- JSON documents write 0.00001 and 1000000000000000.0 in full, and go to exponents beyond. -/
def jsonLayout : Layout := ⟨-5, 16⟩

/-- drop the zeros at the end, which move into the exponent -/
def trimZeros (digits : List Char) : List Char :=
  (digits.reverse.dropWhile (· == '0')).reverse

def zeros (n : Nat) : List Char := List.replicate n '0'

/-- digits with a point, at least one digit on either side of it -/
def positional (digits : List Char) (lead : Int) : List Char :=
  if lead < 0 then '0' :: '.' :: zeros (-lead - 1).toNat ++ digits
  else
    let whole := lead.toNat + 1
    if digits.length ≤ whole then digits ++ zeros (whole - digits.length) ++ ['.', '0']
    else digits.take whole ++ '.' :: digits.drop whole

/-- one digit before the point, the point only if digits follow, and an exponent that always has its sign -/
def scientific (digits : List Char) (lead : Int) : List Char :=
  let tail := digits.drop 1
  digits.take 1 ++ (if tail.isEmpty then [] else '.' :: tail) ++
    'e' :: (if lead < 0 then '-' else '+') :: Nat.toDigits 10 lead.natAbs

/-- the text of a positive decimal -/
def Layout.text (layout : Layout) (d : Decimal) : List Char :=
  let all := Nat.toDigits 10 d.digits
  let lead := d.exponent + (all.length : Int) - 1
  let digits := trimZeros all
  if layout.low ≤ lead ∧ lead < layout.high then positional digits lead else scientific digits lead

/-- the text of a value; zero keeps its sign -/
def render (bits : UInt64) : String :=
  let x := ofBits bits
  let sign := if x.negative then ['-'] else []
  String.ofList (sign ++ if x.mantissa = 0 then ['0', '.', '0'] else jsonLayout.text (shortest x))

end ToolSchema.Double
