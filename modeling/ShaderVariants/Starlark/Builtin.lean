import ShaderVariants.Starlark.Method
import ShaderVariants.Starlark.Token.Lexer
import ShaderVariants.Config
import ShaderVariants.Decimal.Read
/-!
# Built-in functions

The functions every program may call without defining them, and the two the host adds for
configuration programs:

* `combinations(flags, values=?)` lists one permutation per way of turning the named flags on
  and off (at most sixteen flags), each a dict with a `name` after the flags it turns on, its
  `flags`, and the given `values` when there are any;
* `env(name, default="")` reads an environment variable, or gives the default.

`sorted`, `min` and `max` may call a key function; the caller supplies how to call one.
-/

namespace ShaderVariants.Starlark

namespace RunM

/-- The items of an iterable argument. -/
def itemsOf (v : Value) : RunM (List Value) := do
  return (v.items? (← get)).getD []

/-- Bind arguments by name and position. -/
def bindArgs (name : String) (slots : List Slot) (a : Args) : RunM (Array (Option Value)) := do
  lift (Args.bind (← get) name slots a)

/-- The hash of a text as a 32-bit two's complement number: each character of the text in
turn (a stray byte as U+FFFD), `h ↦ 31 h + c`, wrapping. -/
def textHash (s : Bytes) : Int :=
  let h := (chars s).foldl (fun (h : Nat) c => (31 * h + c) % Nat.pow 2 32) 0
  if h ≥ Nat.pow 2 31 then (h : Int) - Nat.pow 2 32 else h

/-- The hash of a byte string: 32-bit FNV-1a over its bytes, as a non-negative number. -/
def bytesHash (s : Bytes) : Int :=
  Int.ofNat (s.foldl (fun (h : Nat) b => (h ^^^ b.toNat) * 16777619 % Nat.pow 2 32) 2166136261)

/-- The value of a run of digits in a base (letters stand for 10 to 35 in either case); none
when the run is empty or holds anything else. -/
def digitsValue (base : Nat) (s : Bytes) : Option Nat :=
  let digit (b : UInt8) : Option Nat :=
    let c := b.toNat
    if 48 ≤ c && c ≤ 57 then some (c - 48)
    else if 97 ≤ c && c ≤ 122 then some (c - 87)
    else if 65 ≤ c && c ≤ 90 then some (c - 55)
    else none
  if s.isEmpty then none
  else s.foldlM (fun (n : Nat) b => do
    let d ← digit b
    if d < base then some (n * base + d) else none) 0

/-- A text read as an integer in a base, with an optional sign; none when it is not one. A base
prefix (`0o`, `0x`, `0b`, with digits after it) is dropped when it names the base or the
base is zero; any other prefix is read as digits. With base zero the base comes from the
prefix, else it is ten, and a number that starts with `0` must be all zeros. -/
def parseIntText (s : Bytes) (base : Nat) : Option Int :=
  let (neg, s) := match s with
    | 43 :: r => (false, r)
    | 45 :: r => (true, r)
    | _ => (false, s)
  let signed (v : Nat) : Int := if neg then -(v : Int) else v
  let pfx : Nat := match s with
    | 48 :: x :: _ :: _ =>
      if x == 111 || x == 79 then 8 else if x == 120 || x == 88 then 16
      else if x == 98 || x == 66 then 2 else 0
    | _ => 0
  match s with
  | 48 :: rest@(_ :: _) =>
    if pfx != 0 && (base == 0 || base == pfx) then (digitsValue pfx (rest.drop 1)).map signed
    else if pfx == 0 && base == 0 then
      if rest.all (· == 48) then some 0 else none
    else (digitsValue base s).map signed
  | _ => (digitsValue (if base == 0 then 10 else base) s).map signed

/-- Whether a text has the shape of a decimal float: a sign, digits with at most one point
(at least one digit), and an exponent with digits. -/
def decimalShape (s : Bytes) : Bool :=
  let s := match s with
    | 43 :: r | 45 :: r => r
    | r => r
  let isDigit (b : UInt8) : Bool := 48 ≤ b && b ≤ 57
  let mant := s.takeWhile fun b => isDigit b || b == 46
  let rest := s.drop mant.length
  let mantOk := mant.any isDigit && (mant.filter (· == 46)).length ≤ 1
  let expOk := match rest with
    | [] => true
    | e :: r =>
      (e == 101 || e == 69) &&
        let r := match r with
          | 43 :: q | 45 :: q => q
          | q => q
        !r.isEmpty && r.all isDigit
  mantOk && expOk

/-- A text read as a float: the special spellings `inf`, `infinity`, `nan` in any case with a
sign, or a number; a well-formed number too large for a float is refused as such. -/
def parseFloatText (s : Bytes) : Except Bytes Float :=
  let low := s.map Decimal.lowerByte
  let inf : Float := 1.0 / 0.0
  if low == Bytes.ofString "inf" || low == Bytes.ofString "+inf" ||
      low == Bytes.ofString "infinity" || low == Bytes.ofString "+infinity" then .ok inf
  else if low == Bytes.ofString "-inf" || low == Bytes.ofString "-infinity" then .ok (-inf)
  else if low == Bytes.ofString "nan" || low == Bytes.ofString "+nan" ||
      low == Bytes.ofString "-nan" then .ok (0.0 / 0.0)
  else match Decimal.readFloat? s with
    | some x => .ok x
    | none =>
      if decimalShape s then .error (Bytes.ofString "floating-point number too large")
      else .error (Bytes.ofString "invalid float literal: " ++ s)

/-- The permutations `combinations` makes for flag names and optional values. -/
def combinationsOf (names : List Bytes) (values : Option Value) : RunM Value := do
  let mut perms : List Value := []
  for flags in ← makeCombinations names do
    let on := names.filter fun n => (flags.get? n).getD false
    let flagDict ← newDict (flags.map fun (n, b) => (.str n, .bool b))
    let mut entries : List (Value × Value) :=
      [(.str (Bytes.ofString "name"), .str (permutationName on)),
       (.str (Bytes.ofString "flags"), flagDict)]
    if let some v := values then entries := entries ++ [(.str (Bytes.ofString "values"), v)]
    perms := perms ++ [← newDict entries]
  newList perms

/-- Call a built-in function; `callKey f x` calls a key function on a value. -/
def callBuiltin (callKey : Value → Value → RunM Value) (b : Builtin) (a : Args) :
    RunM Value := do
  let m ← get
  let name := b.name
  let nameErr {α : Type} (msg : Bytes) : RunM α := throw (Bytes.ofString (name ++ ": ") ++ msg)
  match b with
  | .abs =>
    let xs ← posArgs name 1 [.any] a
    match argAt xs 0 with
    | some (.float f) => return .float f.abs
    | some (.int n) => return .int n.natAbs
    | some x => fail ("got " ++ x.typeName ++ ", want int or float")
    | none => return .none
  | .all | .any =>
    let xs ← posArgs name 1 [.iterable] a
    let items ← itemsOf ((argAt xs 0).getD .none)
    let m ← get
    if b == .all then return .bool (items.all (·.truth m))
    else return .bool (items.any (·.truth m))
  | .bool =>
    let xs ← posArgs name 0 [.any] a
    return .bool (((argAt xs 0).map (·.truth m)).getD false)
  | .bytes =>
    let xs ← posArgs name 1 [.any] a
    match argAt xs 0 with
    | some (.str s) => return .bytes s
    | some (.bytes s) => return .bytes s
    | some x =>
      match x.items? m with
      | some items =>
        let mut out : Bytes := []
        for i in items do
          match i with
          | .int n =>
            if n < 0 || n > 255 then nameErr (Bytes.ofString "at index " ++
              Bytes.ofNat out.length ++ Bytes.ofString ", " ++ Bytes.ofInt n ++
              Bytes.ofString " out of range (want value in unsigned 8-bit range)")
            out := out ++ [n.toNat.toUInt8]
          | _ => nameErr (Bytes.ofString ("at index " ++ toString out.length ++ ", got " ++
              i.typeName ++ ", want int"))
        return .bytes out
      | none => fail ("bytes: got " ++ x.typeName ++ ", want string, bytes, or iterable of ints")
    | none => return .bytes []
  | .chr =>
    if !a.named.isEmpty then fail "chr does not accept keyword arguments"
    if a.positional.length != 1 then
      fail ("chr: got " ++ toString a.positional.length ++ " arguments, want 1")
    let x := a.positional.headD .none
    match asInt32 x with
    | .error e => nameErr e
    | .ok i =>
      if i < 0 then fail ("chr: Unicode code point " ++ toString i ++ " out of range (<0)")
      if i > 0x10FFFF then
        throw (Bytes.ofString "chr: Unicode code point U+" ++ upperHex 0 i.toNat ++
          Bytes.ofString " out of range (>0x10FFFF)")
      return .str (Glyph.encode i.toNat)
  | .dict =>
    if a.positional.length > 1 then
      fail ("dict: got " ++ toString a.positional.length ++ " arguments, want at most 1")
    let r ← alloc (.dict #[] 0)
    match (updateDict r a.positional a.named).run (← get) with
    | .ok (_, m') => set m'; return .dict r
    | .error e => nameErr e
  | .dir =>
    let xs ← posArgs name 1 [.any] a
    let names := ((argAt xs 0).getD .none).attrNames
    newList ((names.mergeSort fun x y => decide (x ≤ y)).map fun n => .str (Bytes.ofString n))
  | .enumerate =>
    let xs ← bindArgs name [⟨"iterable", false, .iterable⟩, ⟨"start", true, .int⟩] a
    let start := intArg (slotAt xs 1) 0
    let items ← itemsOf ((slotAt xs 0).getD .none)
    newList (items.zipIdx.map fun (x, i) => .tuple [.int (start + i), x])
  | .fail =>
    let xs ← bindArgs name [⟨"sep", true, .text⟩] { named := a.named }
    let sep := match slotAt xs 0 with
      | some (.str s) => s
      | _ => [32]
    throw (Bytes.ofString "fail: " ++ Bytes.intercalate sep (a.positional.map (·.text m)))
  | .float =>
    if !a.named.isEmpty then fail "float does not accept keyword arguments"
    match a.positional with
    | [] => return .float 0.0
    | [x] =>
      match x with
      | .bool bv => return .float (if bv then 1.0 else 0.0)
      | .int n => return .float (← toFloat n)
      | .float f => return .float f
      | .str s =>
        if s.isEmpty then fail "empty string"
        return .float (← lift (parseFloatText s))
      | _ => fail ("float got " ++ x.typeName ++ ", want number or string")
    | xs => fail ("float got " ++ toString xs.length ++ " arguments, wants 1")
  | .getattr =>
    let xs ← posArgs name 2 [.any, .text, .any] a
    let x := (argAt xs 0).getD .none
    let attr := textArg (argAt xs 1)
    match (getAttr x attr).run m with
    | .ok (v, _) => return v
    | .error _ =>
      match argAt xs 2 with
      | some d => return d
      | none =>
        throw (Bytes.ofString ("getattr: " ++ x.typeName ++ " has no .") ++ attr ++
          Bytes.ofString " field or method")
  | .hasattr =>
    let xs ← posArgs name 2 [.any, .text] a
    let x := (argAt xs 0).getD .none
    return .bool (x.attrNames.any fun n => Bytes.ofString n == textArg (argAt xs 1))
  | .hash =>
    let xs ← posArgs name 1 [.any] a
    match argAt xs 0 with
    | some (.str s) => return .int (textHash s)
    | some (.bytes s) => return .int (bytesHash s)
    | some x => fail ("hash: got " ++ x.typeName ++ ", want string or bytes")
    | none => return .none
  | .int =>
    let xs ← bindArgs name [⟨"x", true, .any⟩, ⟨"base", true, .any⟩] a
    let x := (slotAt xs 0).getD (.int 0)
    match x with
    | .str s =>
      let base ← match slotAt xs 1 with
        | none => pure 10
        | some bv =>
          match asInt32 bv with
          | .ok i =>
            if i != 0 && (i < 2 || i > 36) then
              fail "int: base must be an integer >= 2 && <= 36"
            pure i.toNat
          | .error _ => fail ("int: for base, got " ++ bv.typeName ++ ", want int")
      match parseIntText s base with
      | some n => return .int n
      | none =>
        throw (Bytes.ofString ("int: invalid literal with base " ++ toString base ++ ": ") ++ s)
    | _ =>
      if (slotAt xs 1).isSome then fail "int: can't convert non-string with explicit base"
      match x with
      | .bool bv => return .int (if bv then 1 else 0)
      | _ =>
        match numberToInt x with
        | .ok n => return .int n
        | .error e => nameErr e
  | .len =>
    let xs ← posArgs name 1 [.any] a
    let x := (argAt xs 0).getD .none
    match x.length? m with
    | some n => return .int n
    | none => fail ("len: value of type " ++ x.typeName ++ " has no len")
  | .list =>
    let xs ← posArgs name 0 [.iterable] a
    newList (← itemsOf ((argAt xs 0).getD (.tuple [])))
  | .max | .min =>
    if a.positional.isEmpty then fail (name ++ " requires at least one positional argument")
    let ks ← bindArgs name [⟨"key", true, .callable⟩] { named := a.named }
    let iterable := match a.positional with
      | [x] => x
      | xs => .tuple xs
    let some items := iterable.items? m
      | fail (name ++ ": " ++ iterable.typeName ++ " value is not iterable")
    let op : BinOp := if b == .max then .gt else .lt
    match items with
    | [] => nameErr (Bytes.ofString "argument is an empty sequence")
    | first :: rest =>
      let keyOf (x : Value) : RunM Value := match slotAt ks 0 with
        | some f => callKey f x
        | none => pure x
      let mut best := first
      let mut bestKey ← keyOf first
      for x in rest do
        let k ← keyOf x
        match compare (← get) compareDepth op k bestKey with
        | .ok true =>
          best := x
          bestKey := k
        | .ok false => pure ()
        | .error e => nameErr e
      return best
  | .ord =>
    if !a.named.isEmpty then fail "ord does not accept keyword arguments"
    if a.positional.length != 1 then
      fail ("ord: got " ++ toString a.positional.length ++ " arguments, want 1")
    match a.positional.headD .none with
    | .str s =>
      match Glyph.decode s with
      | [g] => return .int g.code
      | gs => fail ("ord: string encodes " ++ toString gs.length ++ " Unicode code points, want 1")
    | .bytes s =>
      match s with
      | [x] => return .int x.toNat
      | _ => fail ("ord: bytes has length " ++ toString s.length ++ ", want 1")
    | x => fail ("ord: got " ++ x.typeName ++ ", want string or bytes")
  | .print =>
    discard (bindArgs name [⟨"sep", true, .text⟩] { named := a.named })
    return .none
  | .range =>
    let xs ← posArgs name 1 [.int, .int, .int] a
    let n0 := intArg (argAt xs 0) 0
    let (start, stop) := if xs.size == 1 then (0, n0) else (n0, intArg (argAt xs 1) 0)
    let step := intArg (argAt xs 2) 1
    if step == 0 then nameErr (Bytes.ofString "step argument must not be zero")
    return .range start stop step
  | .repr =>
    let xs ← posArgs name 1 [.any] a
    return .str (((argAt xs 0).getD .none).show m)
  | .reversed =>
    let xs ← posArgs name 1 [.iterable] a
    newList (← itemsOf ((argAt xs 0).getD .none)).reverse
  | .set =>
    let xs ← posArgs name 0 [.iterable] a
    let items ← itemsOf ((argAt xs 0).getD (.tuple []))
    let mut acc : Array Value := #[]
    for x in items do
      match ← lift (keyIndex m (acc.map (·, Value.none)) x) with
      | some _ => pure ()
      | none => acc := acc.push x
    return .set (← alloc (.set acc 0))
  | .sorted =>
    let xs ← bindArgs name [⟨"iterable", false, .iterable⟩, ⟨"key", true, .callable⟩,
      ⟨"reverse", true, .bool⟩] a
    let items ← itemsOf ((slotAt xs 0).getD .none)
    let keyed ← items.mapM fun x => do
      match slotAt xs 1 with
      | some f => return (← callKey f x, x)
      | none => return (x, x)
    let reverse := match slotAt xs 2 with
      | some (.bool r) => r
      | _ => false
    let m ← get
    let mut failure : Option Bytes := none
    for ((k, _), i) in keyed.zipIdx do
      for (k', _) in keyed.drop (i + 1) do
        match compare m compareDepth .lt k' k with
        | .error e => if failure.isNone then failure := some e
        | .ok _ => pure ()
    if let some e := failure then throw e
    let less (p q : Value × Value) : Bool :=
      match compare m compareDepth .lt p.1 q.1 with
      | .ok r => r
      | .error _ => false
    let sorted := keyed.mergeSort fun p q => if reverse then !less p q else !less q p
    newList (sorted.map (·.2))
  | .str =>
    if !a.named.isEmpty then fail "str does not accept keyword arguments"
    match a.positional with
    | [x] => return .str (x.text m)
    | xs => fail ("str: got " ++ toString xs.length ++ " arguments, want exactly 1")
  | .tuple =>
    let xs ← posArgs name 0 [.iterable] a
    return .tuple (← itemsOf ((argAt xs 0).getD (.tuple [])))
  | .type =>
    if !a.named.isEmpty then fail "type does not accept keyword arguments"
    match a.positional with
    | [x] => return .str (Bytes.ofString x.typeName)
    | xs => fail ("type: got " ++ toString xs.length ++ " arguments, want exactly 1")
  | .zip =>
    if !a.named.isEmpty then fail "zip does not accept keyword arguments"
    let mut columns : List (List Value) := []
    for (x, i) in a.positional.zipIdx do
      match x.items? m with
      | some items => columns := columns ++ [items]
      | none =>
        fail ("zip: argument #" ++ toString (i + 1) ++ " is not iterable: " ++ x.typeName)
    let rows := (columns.map List.length).min?.getD 0
    newList ((List.range rows).map fun r => .tuple (columns.map fun c => c.getD r .none))
  | .combinations =>
    let xs ← bindArgs name [⟨"flags", false, .list⟩, ⟨"values", true, .dict⟩] a
    let items ← itemsOf ((slotAt xs 0).getD .none)
    let mut names : List Bytes := []
    for (x, i) in items.zipIdx do
      match x with
      | .str s => names := names ++ [s]
      | _ => fail (name ++ ": flags[" ++ toString i ++ "] is not a string")
    if names.length > 16 then
      fail (name ++ ": " ++ toString names.length ++ " flags would produce too many permutations")
    combinationsOf names (slotAt xs 1)
  | .env =>
    let xs ← bindArgs name [⟨"name", false, .text⟩, ⟨"default", true, .text⟩] a
    let key := textArg (slotAt xs 0)
    match m.environment.find? (·.1 == key) with
    | some (_, v) => return .str v
    | none => return .str (textArg (slotAt xs 1))

end RunM

end ShaderVariants.Starlark
