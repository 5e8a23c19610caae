import ShaderVariants.Text.Bytes
/-!
# Reading numbers written in text

The number syntax configuration formats fall back on: integers with an optional sign and an
optional base prefix (`0b`, `0o`, `0x`, or a bare leading `0` for octal), and floats in
decimal or hexadecimal notation, or spelled `inf`, `infinity` or `nan` in any case.

Underscores may separate digits, and may follow a base prefix, but may not start or end the
digits or stand twice in a row. A 64-bit integer that does not fit, and a float whose
magnitude rounds past the largest double, are not numbers; a float too small for the smallest
double reads as zero. Decimal floats are rounded once, to the nearest double.
-/

namespace ShaderVariants.Decimal

/-- An ASCII letter in lower case; other bytes unchanged. -/
def lowerByte (b : UInt8) : UInt8 := if 65 ≤ b && b ≤ 90 then b + 32 else b

/-- Whether a byte is an ASCII digit. -/
def isDigit (b : UInt8) : Bool := 48 ≤ b && b ≤ 57

/-- The value of a digit in a base up to 36: `0`–`9`, then letters of either case. -/
def digitValue? (b : UInt8) : Option Nat :=
  if isDigit b then some (b.toNat - 48)
  else
    let c := lowerByte b
    if 97 ≤ c && c ≤ 122 then some (c.toNat - 87) else none

/-- Whether the underscores of a number stand only between digits, or between a base prefix
and a digit. -/
def underscoresFit (s : Bytes) : Bool :=
  let s := match s with
    | 43 :: r | 45 :: r => r
    | _ => s
  let (hex, prefixed, body) := match s with
    | 48 :: p :: r =>
      let q := lowerByte p
      if q == 98 || q == 111 || q == 120 then (q == 120, true, r) else (false, false, s)
    | _ => (false, false, s)
  -- what was seen last: 0 start, 1 digit or prefix, 2 underscore, 3 anything else
  let step (seen : Option Nat) (c : UInt8) : Option Nat :=
    match seen with
    | none => none
    | some saw =>
      if isDigit c || (hex && 97 ≤ lowerByte c && lowerByte c ≤ 102) then some 1
      else if c == 95 then (if saw == 1 then some 2 else none)
      else if saw == 2 then none
      else some 3
  let last := body.foldl step (some (if prefixed then 1 else 0))
  match last with
  | some saw => saw != 2
  | none => false

/-- The base a prefix selects and the digits after it: `0b`, `0o` and `0x` when something
follows them, else a leading `0` selects octal. -/
def splitBase (s : Bytes) : Nat × Bytes :=
  match s with
  | 48 :: p :: rest@(_ :: _) =>
    let q := lowerByte p
    if q == 98 then (2, rest) else if q == 111 then (8, rest)
    else if q == 120 then (16, rest) else (8, p :: rest)
  | 48 :: rest => (8, rest)
  | _ => (10, s)

/-- The value of digits in a base, underscores skipped, or none if a character is not a digit
of the base. -/
def digitsValue? (base : Nat) (ds : Bytes) : Option Nat :=
  let step (acc : Option Nat) (c : UInt8) : Option Nat :=
    match acc with
    | none => none
    | some n =>
      if c == 95 then some n
      else match digitValue? c with
        | some d => if d < base then some (n * base + d) else none
        | none => none
  ds.foldl step (some 0)

/-- An unsigned 64-bit integer with an optional base prefix, and no sign. -/
def readNat? (s : Bytes) : Option Nat :=
  if s.isEmpty then none
  else
    let (base, ds) := splitBase s
    match digitsValue? base ds with
    | none => none
    | some n =>
      if s.elem 95 && !underscoresFit s then none
      else if n < Nat.pow 2 64 then some n else none

/-- A signed 64-bit integer with an optional sign and base prefix. -/
def readInt? (s : Bytes) : Option Int :=
  let (neg, body) := match s with
    | 43 :: r => (false, r)
    | 45 :: r => (true, r)
    | _ => (false, s)
  match readNat? body with
  | none => none
  | some n =>
    if neg then (if n ≤ Nat.pow 2 63 then some (-(n : Int)) else none)
    else if n < Nat.pow 2 63 then some n else none

/-- `inf`, `infinity` or `nan`, in any case; a sign may stand before the first two. -/
def readSpecial? (s : Bytes) : Option Float :=
  let (neg, body, signed) := match s with
    | 43 :: r => (false, r, true)
    | 45 :: r => (true, r, true)
    | _ => (false, s, false)
  let inf : Float := if neg then -(1.0 / 0.0) else 1.0 / 0.0
  if body.map lowerByte == Bytes.ofString "inf" ||
      body.map lowerByte == Bytes.ofString "infinity" then some inf
  else if !signed && s.map lowerByte == Bytes.ofString "nan" then some (0.0 / 0.0)
  else none

/-- `m · 10^e` rounded to the nearest double, or none when it rounds past the largest. -/
def scientific (m : Nat) (e : Int) : Option Float :=
  if m == 0 then some 0.0
  else
    let size := (Nat.toDigits 10 m).length
    if e + size > 310 then none
    else if e + size < -330 then some 0.0
    else
      let x := if e ≥ 0 then Float.ofScientific m false e.toNat
        else Float.ofScientific m true (-e).toNat
      if x.isInf then none else some x

/-- The mantissa of a float: its digit value, how many digits stood after the point, and
whether any digit stood at all; reading stops at the first other character. -/
def mantissa (base : Nat) : Bytes → Nat × Nat × Bool × Bool × Bytes
  | [] => (0, 0, false, false, [])
  | c :: rest => go 0 0 false false (c :: rest) (rest.length + 1)
where
  go (n after : Nat) (sawDot sawDigit : Bool) : Bytes → Nat → Nat × Nat × Bool × Bool × Bytes
    | [], _ => (n, after, sawDot, sawDigit, [])
    | s, 0 => (n, after, sawDot, sawDigit, s)
    | c :: rest, fuel + 1 =>
      if c == 95 then go n after sawDot sawDigit rest fuel
      else if c == 46 then
        if sawDot then (n, after, sawDot, sawDigit, c :: rest)
        else go n after true sawDigit rest fuel
      else match digitValue? c with
        | some d =>
          if d < base && (base == 16 || isDigit c) then
            go (n * base + d) (if sawDot then after + 1 else after) sawDot true rest fuel
          else (n, after, sawDot, sawDigit, c :: rest)
        | none => (n, after, sawDot, sawDigit, c :: rest)

/-- The exponent after `e` or `p`: a sign and digits (underscores allowed), or none. -/
def exponent? (s : Bytes) : Option Int :=
  let (neg, body) := match s with
    | 43 :: r => (false, r)
    | 45 :: r => (true, r)
    | _ => (false, s)
  match body with
  | c :: _ =>
    if !isDigit c then none
    else if body.all (fun b => isDigit b || b == 95) then
      let step (n : Nat) (b : UInt8) : Nat :=
        if b == 95 then n else min (n * 10 + (b.toNat - 48)) 100000
      let v := body.foldl step 0
      some (if neg then -(v : Int) else (v : Int))
    else none
  | [] => none

/-- A float: decimal `[sign] digits [. digits] [e [sign] digits]`, hexadecimal
`[sign] 0x hexdigits [. hexdigits] p [sign] digits`, or a special spelling. -/
def readFloat? (s : Bytes) : Option Float :=
  match readSpecial? s with
  | some x => some x
  | none =>
    let (neg, body) := match s with
      | 43 :: r => (false, r)
      | 45 :: r => (true, r)
      | _ => (false, s)
    let (hex, digits) := match body with
      | 48 :: x :: r@(_ :: _) => if lowerByte x == 120 then (true, r) else (false, body)
      | _ => (false, body)
    let (m, after, _, sawDigit, rest) := mantissa (if hex then 16 else 10) digits
    if !sawDigit then none
    else
      let expMark : UInt8 := if hex then 112 else 101
      let e? : Option Int := match rest with
        | [] => if hex then none else some 0
        | c :: more => if lowerByte c == expMark then exponent? more else none
      match e? with
      | none => none
      | some e =>
        if s.elem 95 && !underscoresFit s then none
        else
          let value := if hex then
              (if m == 0 then some 0.0
               else
                 let p := e - 4 * after
                 if p + (Nat.log2 m : Int) > 1100 then none
                 else if p + (Nat.log2 m : Int) < -1200 then some 0.0
                 else
                   let x := if p ≥ 0 then Float.ofScientific (m * Nat.pow 2 p.toNat) false 0
                     else Float.ofScientific (m * Nat.pow 5 (-p).toNat) true (-p).toNat
                   if x.isInf then none else some x)
            else scientific m (e - after)
          value.map fun x => if neg then -x else x

end ShaderVariants.Decimal
