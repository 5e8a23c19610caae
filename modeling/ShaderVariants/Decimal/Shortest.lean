/-!
# Shortest decimal digits of a double

A finite double `v` stands for every real number that rounds to it: an interval around `v`
reaching halfway to each neighbouring double, with its ends included when `v`'s mantissa is
even (a real exactly halfway rounds to the even neighbour). The shortest digits of `v` are the
decimal `c · 10^k` with the fewest significant digits inside that interval; among those, the
one nearest to `v`, and of two equally near, the one with an even last digit.

All arithmetic here is exact, on natural numbers: a positive rational is a numerator and a
denominator, and for `n = 1, 2, …, 17` significant digits only the two neighbours of `v` on the
grid of `n`-digit decimals need testing, since the interval is convex and contains `v`.
-/

namespace ShaderVariants

namespace Shortest

/-- A finite, positive double as an exact binary number `mantissa · 2^exponent`. -/
structure Binary where
  mantissa : Nat
  exponent : Int
  /-- The gap to the next smaller double is half the gap to the next larger one (the mantissa
  is a power of two of a normal number other than the smallest). -/
  narrowBelow : Bool

/-- The exact value of the bits of a double, when it is finite and not zero: the 52 low bits
are the fraction, the 11 above them the biased exponent. The sign bit is ignored. -/
def Binary.ofBits (bits : UInt64) : Option Binary :=
  let frac := (bits &&& 0xFFFFFFFFFFFFF).toNat
  let biased := ((bits >>> 52) &&& 0x7FF).toNat
  if biased == 0x7FF then none
  else if biased == 0 then
    if frac == 0 then none else some ⟨frac, -1074, false⟩
  else some ⟨frac + Nat.pow 2 52, (biased : Int) - 1075, frac == 0 && biased > 1⟩

/-- A positive rational as numerator and denominator. -/
structure Ratio where
  num : Nat
  den : Nat

/-- `x · 2^s` as a ratio. -/
def Ratio.ofPow2 (x : Nat) (s : Int) : Ratio :=
  if 0 ≤ s then ⟨x * Nat.pow 2 s.toNat, 1⟩ else ⟨x, Nat.pow 2 (-s).toNat⟩

/-- `c · 10^k` as a ratio. -/
def Ratio.ofPow10 (c : Nat) (k : Int) : Ratio :=
  if 0 ≤ k then ⟨c * Nat.pow 10 k.toNat, 1⟩ else ⟨c, Nat.pow 10 (-k).toNat⟩

/-- `a ≤ b`, exactly. -/
def Ratio.le (a b : Ratio) : Bool := a.num * b.den ≤ b.num * a.den

/-- `a < b`, exactly. -/
def Ratio.lt (a b : Ratio) : Bool := a.num * b.den < b.num * a.den

/-- `⌊a / 10^k⌋`. -/
def Ratio.floorPow10 (a : Ratio) (k : Int) : Nat :=
  if 0 ≤ k then a.num / (a.den * Nat.pow 10 k.toNat) else a.num * Nat.pow 10 (-k).toNat / a.den

/-- `⌊log₁₀ a⌋` for a positive ratio, found among the exponents a double can have. -/
def Ratio.log10 (a : Ratio) : Int :=
  if a.den ≤ a.num then ((Nat.toDigits 10 (a.num / a.den)).length : Int) - 1
  else
    match (List.range 400).find? (fun j => a.den ≤ a.num * Nat.pow 10 (j + 1)) with
    | some j => -((j : Int) + 1)
    | none => -400

/-- The interval of reals that round to a double: the bounds, and whether they belong to it. -/
structure Interval where
  low : Ratio
  high : Ratio
  closed : Bool

/-- The rounding interval of a double. -/
def Binary.interval (b : Binary) : Interval :=
  let s := b.exponent - 2
  let lowNum := if b.narrowBelow then 4 * b.mantissa - 1 else 4 * b.mantissa - 2
  ⟨Ratio.ofPow2 lowNum s, Ratio.ofPow2 (4 * b.mantissa + 2) s, b.mantissa % 2 == 0⟩

/-- Whether a ratio lies in the interval. -/
def Interval.contains (i : Interval) (x : Ratio) : Bool :=
  if i.closed then i.low.le x && x.le i.high else i.low.lt x && x.lt i.high

/-- The value of a double as a ratio. -/
def Binary.value (b : Binary) : Ratio := Ratio.ofPow2 b.mantissa b.exponent

/-- A decimal `coeff · 10^exp`. -/
structure Decimal where
  coeff : Nat
  exp : Int
  deriving DecidableEq, Repr

/-- The best decimal of `n` significant digits for the double, if one reads back as it. -/
def Binary.onGrid (b : Binary) (n : Nat) : Option Decimal :=
  let v := b.value
  let k := v.log10 - n + 1
  let lo := v.floorPow10 k
  let hi := lo + 1
  let i := b.interval
  let okLo := lo > 0 && i.contains (Ratio.ofPow10 lo k)
  let okHi := i.contains (Ratio.ofPow10 hi k)
  if okLo && okHi then
    -- both read back: the nearer, and of two equally near the even one
    let g := Ratio.ofPow10 1 k
    let below : Ratio := ⟨v.num * g.den - lo * g.num * v.den, v.den * g.den⟩
    let above : Ratio := ⟨hi * g.num * v.den - v.num * g.den, v.den * g.den⟩
    if below.lt above then some ⟨lo, k⟩
    else if above.lt below then some ⟨hi, k⟩
    else if lo % 2 == 0 then some ⟨lo, k⟩ else some ⟨hi, k⟩
  else if okLo then some ⟨lo, k⟩
  else if okHi then some ⟨hi, k⟩
  else none

/-- A decimal with the trailing zeros of its coefficient moved into its exponent. -/
def Decimal.normalize (d : Decimal) : Decimal :=
  let rec go (fuel : Nat) (c : Nat) (e : Int) : Decimal :=
    match fuel with
    | 0 => ⟨c, e⟩
    | fuel + 1 => if c ≠ 0 && c % 10 == 0 then go fuel (c / 10) (e + 1) else ⟨c, e⟩
  go 20 d.coeff d.exp

/-- The shortest decimal that reads back as the double, nearest to it. -/
def Binary.shortest (b : Binary) : Decimal :=
  match (List.range 17).findSome? (fun n => b.onGrid (n + 1)) with
  | some d => d.normalize
  | none => ⟨b.mantissa, 0⟩

end Shortest

end ShaderVariants
