import ShaderVariants.Starlark.Value
/-!
# Operators on Starlark values

Arithmetic on integers is exact; an integer meeting a float becomes a float first (an integer
too large for a float is an error). `//` and `%` round toward negative infinity, as on numbers
the result of `%` takes the sign of the divisor. `/` always gives a float. Shifts take a count
from 0 to 511 to the left; bit operations act on two's complement.

`+` also joins texts, lists and tuples, `*` repeats them, `|` merges dicts, `%` formats a text,
and `in` looks a value up in a container or a text in a text. Any other pairing of operand
types is an error naming both types.

Indexing counts from the end for negative indices; slices clamp their bounds to the sequence
and take a step that is not zero. Texts are indexed and sliced by bytes.
-/

namespace ShaderVariants.Starlark

namespace RunM

/-- Lift a result whose failure is a message. -/
def lift {α : Type} (r : Except Bytes α) : RunM α :=
  match r with
  | .ok a => pure a
  | .error e => throw e

/-- An integer as a float, failing for one too large. -/
def toFloat (n : Int) : RunM Float := lift (Int.toFloatChecked n)

/-- The error of an operator that does not apply to its operands. -/
def unknownBinary {α : Type} (op : BinOp) (x y : Value) : RunM α :=
  fail ("unknown binary op: " ++ x.typeName ++ " " ++ op.spelling ++ " " ++ y.typeName)

/-- A value as an integer of at most 32 bits, or the message saying why it is not one. -/
def asInt32 (v : Value) : Except Bytes Int :=
  match v with
  | .int n =>
    if n < -(Nat.pow 2 31) || n ≥ Nat.pow 2 31 then .error (Bytes.ofInt n ++ Bytes.ofString " out of range")
    else .ok n
  | _ => .error (Bytes.ofString ("got " ++ v.typeName ++ ", want int"))

/-- The largest number of items a repetition may make. -/
def maxItems : Nat := Nat.pow 2 30

/-- A sequence repeated `n` times, with the limits on the count and the size. -/
def repeatItems {α : Type} (items : List α) (n : Int) : Except Bytes (List α) :=
  if items.isEmpty then .ok []
  else match asInt32 (.int n) with
    | .error _ => .error (Bytes.ofString "repeat count " ++ Bytes.ofInt n ++
        Bytes.ofString " too large")
    | .ok i =>
      if i < 1 then .ok []
      else if items.length * i.toNat ≥ maxItems then
        .error (Bytes.ofString "excessive repeat (" ++ Bytes.ofNat items.length ++
          Bytes.ofString " * " ++ Bytes.ofInt i ++ Bytes.ofString " elements)")
      else .ok (List.replicate i.toNat items).flatten

/-- The remainder of `x / y` truncated toward zero, exactly, for finite floats. -/
def floatRem (x y : Float) : Float :=
  match Float.toDyadic? x, Float.toDyadic? y with
  | some (nx, kx), some (ny, ky) =>
    let k := max kx ky
    let bx := nx * Nat.pow 2 (k - kx)
    let by' := ny * Nat.pow 2 (k - ky)
    if by' == 0 then 0.0 / 0.0
    else
      let r := Int.tmod bx by'
      if r == 0 then (if x < 0 then -0.0 else 0.0)
      else
        let twos := (List.range (k + 1)).find? (fun t => r % Nat.pow 2 (t + 1) != 0)
        let t := twos.getD 0
        let core := r / Nat.pow 2 t
        Float.scaleB (Float.ofInt core) ((t : Int) - (k : Int))
  | _, _ => 0.0 / 0.0

/-- The remainder of floats, with the sign of the divisor. -/
def floatMod (x y : Float) : Float :=
  let z := floatRem x y
  if z != 0.0 && ((x < 0) != (y < 0)) then z + y else z

/-- Arithmetic on two numbers; `none` when an operand is not a number. -/
def arith (op : BinOp) (x y : Value) : RunM (Option Value) := do
  match x, y with
  | .int a, .int b =>
    match op with
    | .add => return some (.int (a + b))
    | .sub => return some (.int (a - b))
    | .mul => return some (.int (a * b))
    | .div =>
      let fa ← toFloat a
      let fb ← toFloat b
      if fb == 0.0 then fail "floating-point division by zero"
      return some (.float (fa / fb))
    | .floorDiv =>
      if b == 0 then fail "floored division by zero"
      return some (.int (Int.fdiv a b))
    | .mod =>
      if b == 0 then fail "integer modulo by zero"
      return some (.int (Int.fmod a b))
    | _ => return none
  | .int a, .float b => floats op (← toFloat a) b
  | .float a, .int b => floats op a (← toFloat b)
  | .float a, .float b => floats op a b
  | _, _ => return none
where
  floats (op : BinOp) (a b : Float) : RunM (Option Value) := do
    match op with
    | .add => return some (.float (a + b))
    | .sub => return some (.float (a - b))
    | .mul => return some (.float (a * b))
    | .div =>
      if b == 0.0 then fail "floating-point division by zero"
      return some (.float (a / b))
    | .floorDiv =>
      if b == 0.0 then fail "floored division by zero"
      return some (.float (a / b).floor)
    | .mod =>
      if b == 0.0 then fail "floating-point modulo by zero"
      return some (.float (floatMod a b))
    | _ => return none

/-! ## Formatting with `%` -/

/-- Digits of a natural number in a base, lower or upper case. -/
def digitsIn (base : Nat) (upper : Bool) (n : Nat) : Bytes :=
  (Nat.toDigits base n).map fun ch => (if upper then ch.toUpper else ch).toNat.toUInt8

/-- An integer in a base, with a minus sign when negative. -/
def intIn (base : Nat) (upper : Bool) (n : Int) : Bytes :=
  (if n < 0 then [45] else []) ++ digitsIn base upper n.natAbs

/-- A finite float rounded to `places` decimals, half to even on exact ties, as digits and the
position of the point. -/
def roundedDigits (x : Float) (places : Nat) : Nat :=
  match Float.toDyadic? x with
  | some (num, k) =>
    let n := num.natAbs * Nat.pow 10 places
    let d := Nat.pow 2 k
    let q := n / d
    let r := n % d
    if 2 * r > d || (2 * r == d && q % 2 == 1) then q + 1 else q
  | none => 0

/-- A finite float written with six decimals: `%f`. -/
def fixedText (x : Float) : Bytes :=
  let q := roundedDigits x 6
  let ds := Bytes.ofNat q
  let ds := List.replicate (7 - min 7 ds.length) 48 ++ ds
  let sign : Bytes := if x.toBits >>> 63 == 1 then [45] else []
  sign ++ ds.take (ds.length - 6) ++ [46] ++ ds.drop (ds.length - 6)

/-- A finite float in exponent form with six decimals: `%e`. -/
def expText (x : Float) (upper : Bool) : Bytes :=
  let sign : Bytes := if x.toBits >>> 63 == 1 then [45] else []
  let mark : UInt8 := if upper then 69 else 101
  match Float.toDyadic? x with
  | some (num, k) =>
    let n := num.natAbs
    if n == 0 then sign ++ Bytes.ofString "0.000000" ++ [mark] ++ Bytes.ofString "+00"
    else
      -- the decimal exponent e with 10^e ≤ |x| < 10^(e+1)
      let size := (Nat.toDigits 10 (n / Nat.pow 2 k)).length
      let e0 : Int := if n / Nat.pow 2 k == 0 then
          -(((List.range (k + 2)).find? (fun i => n * Nat.pow 10 (i + 1) ≥ Nat.pow 2 k)).getD 0 + 1 : Nat)
        else (size : Int) - 1
      let digitsFor (e : Int) : Nat :=
        let scaledNum := if e ≤ 6 then n * Nat.pow 10 (6 - e).toNat else n
        let scaledDen := if e ≤ 6 then Nat.pow 2 k else Nat.pow 2 k * Nat.pow 10 (e - 6).toNat
        let q := scaledNum / scaledDen
        let r := scaledNum % scaledDen
        if 2 * r > scaledDen || (2 * r == scaledDen && q % 2 == 1) then q + 1 else q
      let q := digitsFor e0
      let (q, e) := if q ≥ Nat.pow 10 7 then (digitsFor (e0 + 1), e0 + 1) else (q, e0)
      let ds := Bytes.ofNat q
      let ex := Bytes.ofNat e.natAbs
      sign ++ ds.take 1 ++ [46] ++ ds.drop 1 ++ [mark, if e < 0 then 45 else 43] ++
        List.replicate (2 - min 2 ex.length) 48 ++ ex
  | none => []

/-- A float as a conversion letter writes it: `g` as `str` does, `e` and `f` with six
decimals, the capitals with capital letters. Infinities and NaN are written as `str` writes
them whatever the letter. The float writer knows no capital `F`, and writes the conversion
itself for it. -/
def floatAs (c : UInt8) (x : Float) : Bytes :=
  if x.isNaN || x.isInf then floatText x
  else if c == 103 || c == 71 then
    let s := floatText x
    if c == 71 then s.map fun b => if 97 ≤ b && b ≤ 122 then b - 32 else b else s
  else if c == 101 || c == 69 then expText x (c == 69)
  else if c == 102 then fixedText x
  else [37, c]

/-- A number as an integer for `%d` and friends. -/
def numberToInt (v : Value) : Except Bytes Int :=
  match v with
  | .int n => .ok n
  | .float x =>
    if x.isInf then .error (Bytes.ofString "cannot convert float infinity to integer")
    else if x.isNaN then .error (Bytes.ofString "cannot convert float NaN to integer")
    else .ok (Float.truncInt x)
  | _ => .error (Bytes.ofString ("cannot convert " ++ v.typeName ++ " to int"))

/-- Format a text with `%` against a value (a tuple for several arguments, a dict for named
ones). -/
def interpolate (m : Machine) (format : Bytes) (x : Value) : Except Bytes Value := do
  let args := match x with
    | .tuple items => items
    | _ => [x]
  let isMapping := match x with
    | .dict _ => true
    | _ => false
  let mut out : Bytes := []
  let mut rest := format
  let mut index := 0
  for _ in [0:format.length + 1] do
    match rest.findIdx? (· == 37) with
    | none =>
      out := out ++ rest
      rest := []
      break
    | some i =>
      out := out ++ rest.take i
      rest := rest.drop (i + 1)
      if rest.head? == some 37 then
        out := out ++ [37]
        rest := rest.drop 1
        continue
      let mut arg := Value.none
      if rest.head? == some 40 then
        rest := rest.drop 1
        match rest.findIdx? (· == 41) with
        | none => throw (Bytes.ofString "incomplete format key")
        | some j =>
          let key := rest.take j
          match x with
          | .dict r =>
            match ← keyIndex m (m.dictEntries r) (.str key) with
            | some k => arg := ((m.dictEntries r)[k]?.map (·.2)).getD .none
            | none => throw (Bytes.ofString "key not found: " ++ key)
          | _ => throw (Bytes.ofString "format requires a mapping")
          rest := rest.drop (j + 1)
      else
        match args[index]? with
        | some a => arg := a
        | none => throw (Bytes.ofString "not enough arguments for format string")
      match rest with
      | [] => throw (Bytes.ofString "incomplete format")
      | c :: more =>
        if c == 115 || c == 114 then
          out := out ++ (match arg with
            | .str s => if c == 115 then s else arg.show m
            | _ => arg.show m)
        else if c == 100 || c == 105 || c == 111 || c == 120 || c == 88 then
          match numberToInt arg with
          | .error e =>
            throw (Bytes.ofString "%" ++ [c] ++ Bytes.ofString " format requires integer: " ++ e)
          | .ok n =>
            out := out ++ (if c == 111 then intIn 8 false n
              else if c == 120 then intIn 16 false n
              else if c == 88 then intIn 16 true n
              else Bytes.ofInt n)
        else if c == 101 || c == 102 || c == 103 || c == 69 || c == 70 || c == 71 then
          let f? : Option Float := match arg with
            | .float f => some f
            | .int n => (Int.toFloatChecked n).toOption
            | _ => none
          match f? with
          | some f => out := out ++ floatAs c f
          | none =>
            throw (Bytes.ofString "%" ++ [c] ++ Bytes.ofString " format requires float, not " ++
              Bytes.ofString arg.typeName)
        else if c == 99 then
          match arg with
          | .int n =>
            if n < 0 || n > 0x10FFFF then
              throw (Bytes.ofString
                "%c format requires a valid Unicode code point, got " ++ Bytes.ofInt n)
            out := out ++ Glyph.encode n.toNat
          | .str s =>
            match Glyph.decode s with
            | [g] => out := out ++ Glyph.encode g.code
            | _ => throw (Bytes.ofString "%c format requires a single-character string")
          | _ =>
            throw (Bytes.ofString "%c format requires int or single-character string, not " ++
              Bytes.ofString arg.typeName)
        else if c == 37 then out := out ++ [37]
        else throw (Bytes.ofString "unknown conversion %" ++ Glyph.encode c.toNat)
        rest := more
        index := index + 1
  if index < args.length && !isMapping then
    throw (Bytes.ofString "too many arguments for format string")
  return .str out

/-! ## Binary and unary operators -/

/-- Whether a value is in a container or a text in a text. -/
def contains (m : Machine) (x y : Value) : RunM Bool := do
  match y with
  | .list _ | .tuple _ =>
    for item in (y.items? m).getD [] do
      if ← lift (compare m compareDepth .eq item x) then return true
    return false
  | .dict r =>
    match keyIndex m (m.dictEntries r) x with
    | .ok (some _) => return true
    | _ => return false
  | .set r =>
    match ← lift (keyIndex m ((m.setItems r).map (·, Value.none)) x) with
    | some _ => return true
    | none => return false
  | .str s =>
    match x with
    | .str needle => return Bytes.contains s needle || needle.isEmpty
    | _ => fail ("'in <string>' requires string as left operand, not " ++ x.typeName)
  | .bytes s =>
    match x with
    | .bytes needle => return Bytes.contains s needle || needle.isEmpty
    | .int n => return s.any (fun b => (b.toNat : Int) == n)
    | _ => fail ("'in bytes' requires bytes or int as left operand, not " ++ x.typeName)
  | .range a b c =>
    match numberToInt x with
    | .ok i =>
      let n := Value.rangeLength a b c
      return n > 0 && (if c > 0 then a ≤ i && i < b else b < i && i ≤ a) && (i - a) % c == 0
    | .error _ => fail ("'in <range>' requires integer as left operand, not " ++ x.typeName)
  | _ => unknownBinary .isIn x y

/-- Apply a binary operator other than `and`, `or` and the comparisons. -/
def binary (op : BinOp) (x y : Value) : RunM Value := do
  if let some v ← arith op x y then return v
  let m ← get
  match op, x, y with
  | .add, .str a, .str b => return .str (a ++ b)
  | .add, .bytes a, .bytes b => return .bytes (a ++ b)
  | .add, .list a, .list b => newList ((m.listItems a).toList ++ (m.listItems b).toList)
  | .add, .tuple a, .tuple b => return .tuple (a ++ b)
  | .mul, .int n, .str s | .mul, .str s, .int n => return .str (← lift (repeatItems s n))
  | .mul, .int n, .bytes s | .mul, .bytes s, .int n => return .bytes (← lift (repeatItems s n))
  | .mul, .int n, .list r | .mul, .list r, .int n =>
    newList (← lift (repeatItems (m.listItems r).toList n))
  | .mul, .int n, .tuple items | .mul, .tuple items, .int n =>
    return .tuple (← lift (repeatItems items n))
  | .mod, .str s, _ => lift (interpolate m s y)
  | .isIn, _, _ => return .bool (← contains m x y)
  | .notIn, _, _ => return .bool !(← contains m x y)
  | .bitOr, .int a, .int b => return .int (Int.bitOr a b)
  | .bitAnd, .int a, .int b => return .int (Int.bitAnd a b)
  | .bitXor, .int a, .int b => return .int (Int.bitXor a b)
  | .bitOr, .dict a, .dict b =>
    let merged := (m.dictEntries b).foldl (fun (acc : Array (Value × Value)) (k, v) =>
      match keyIndex m acc k with
      | .ok (some i) => acc.set! i (k, v)
      | _ => acc.push (k, v)) (m.dictEntries a)
    return .dict (← alloc (.dict merged 0))
  | .shiftLeft, .int a, _ | .shiftRight, .int a, _ =>
    let n ← lift (asInt32 y)
    if n < 0 then fail ("negative shift count: " ++ toString n)
    if op == .shiftLeft then
      if n ≥ 512 then fail ("shift count too large: " ++ toString n)
      return .int (a * (Nat.pow 2 n.toNat : Nat))
    return .int (Int.shiftRight a n.toNat)
  | _, _, _ => unknownBinary op x y

/-- Apply a unary operator. -/
def unary (op : UnaryOp) (x : Value) : RunM Value := do
  let m ← get
  match op, x with
  | .not, _ => return .bool !(x.truth m)
  | .neg, .int n => return .int (-n)
  | .neg, .float f => return .float (-f)
  | .plus, .int n => return .int n
  | .plus, .float f => return .float f
  | .invert, .int n => return .int (-n - 1)
  | _, _ => fail ("unknown unary op: " ++ op.spelling ++ " " ++ x.typeName)

/-- The error of an index out of a sequence's range. -/
def outOfRange {α : Type} (i : Int) (n : Nat) (x : Value) : RunM α :=
  if n == 0 then fail ("index " ++ toString i ++ " out of range: empty " ++ x.typeName)
  else fail (x.typeName ++ " index " ++ toString i ++ " out of range [" ++ toString (-(n : Int)) ++
    ":" ++ toString ((n : Int) - 1) ++ "]")

/-- The items of a sequence that can be indexed and sliced. -/
def sequence? (m : Machine) (x : Value) : Option (List Value) :=
  match x with
  | .str s => some (s.map fun b => .str [b])
  | .bytes s => some (s.map fun b => .bytes [b])
  | .tuple items => some items
  | .list r => some (m.listItems r).toList
  | .range a b c => some (Value.rangeItems a b c)
  | _ => none

/-- `x[y]`. -/
def index (x y : Value) : RunM Value := do
  let m ← get
  match x with
  | .dict r =>
    match ← lift (keyIndex m (m.dictEntries r) y) with
    | some i => return ((m.dictEntries r)[i]?.map (·.2)).getD .none
    | none => throw (Bytes.ofString "key " ++ y.show m ++ Bytes.ofString " not in dict")
  | _ =>
    match sequence? m x with
    | some items =>
      let i ← match asInt32 y with
        | .ok i => pure i
        | .error e => throw (Bytes.ofString (x.typeName ++ " index: ") ++ e)
      let n := items.length
      let j := if i < 0 then i + n else i
      if j < 0 || j ≥ n then outOfRange i n x
      return (items[j.toNat]?).getD .none
    | none => fail ("unhandled index operation " ++ x.typeName ++ "[" ++ y.typeName ++ "]")

/-- A slice bound: `none` keeps the default, a negative one counts from the end. -/
def sliceBound (v : Option Value) (n : Nat) (dflt : Int) (which : String) : RunM Int := do
  match v with
  | none | some .none => return dflt
  | some b =>
    match asInt32 b with
    | .ok i => return if i < 0 then i + n else i
    | .error e => throw (Bytes.ofString ("invalid " ++ which ++ " index: ") ++ e)

/-- The positions a slice takes, from `start` toward `stop` by `step`. -/
def slicePositions (start stop step : Int) (n : Nat) : List Nat :=
  (List.range (n + 1)).filterMap fun (k : Nat) =>
    let i := start + (k : Int) * step
    if (step > 0 && i < stop) || (step < 0 && i > stop) then some i.toNat else none

/-- `x[lo:hi:step]`. -/
def slice (x : Value) (lo hi step : Option Value) : RunM Value := do
  let m ← get
  let some items := sequence? m x | fail ("invalid slice operand " ++ x.typeName)
  let n := items.length
  let st ← match step with
    | none | some .none => pure 1
    | some s =>
      match asInt32 s with
      | .ok i => pure i
      | .error e => throw (Bytes.ofString "invalid slice step: " ++ e)
  if st == 0 then fail "zero is not a valid slice step"
  let (start, stop) ← if st > 0 then do
      let a ← sliceBound lo n 0 "start"
      let a := max 0 (min a n)
      let b ← sliceBound hi n n "end"
      let b := max 0 (min b n)
      pure (a, max a b)
    else do
      let a ← sliceBound lo n ((n : Int) - 1) "start"
      let a := if a ≥ n then (n : Int) - 1 else a
      let b ← sliceBound hi n (-1) "end"
      let b := if b < -1 then -1 else b
      pure (max a b, b)
  let picked := (slicePositions start stop st n).filterMap (items[·]?)
  match x with
  | .str s => return .str ((slicePositions start stop st n).filterMap (s[·]?))
  | .bytes s => return .bytes ((slicePositions start stop st n).filterMap (s[·]?))
  | .tuple _ => return .tuple picked
  | .range a _ c =>
    let ps := slicePositions start stop st n
    match ps with
    | [] => return .range 0 0 1
    | p :: _ =>
      let first := a + (p : Int) * c
      return .range first (first + (ps.length : Int) * (c * st)) (c * st)
  | _ => newList picked

end RunM

end ShaderVariants.Starlark
