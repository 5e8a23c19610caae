import ShaderVariants.Starlark.Syntax
import ShaderVariants.Config.Value
import ShaderVariants.Text.Quoted
/-!
# Starlark values and the store they live in

Numbers, texts, tuples and ranges are plain values. Lists, dicts and sets can be changed after
they are made and may be shared, so a value holds only a reference to them; they live in a
store (`Machine.heap`) together with functions and the frames of names that functions close
over.

This module also holds what every operation on values needs: the type names messages use,
truth, length and iteration, equality and order (`compare`), which values can be dict keys,
and the written form of a value (`repr`, `str`).

Equality is structural for texts, numbers and containers (an integer equals a float of the
same value), and identity for functions. Order is defined within a type for numbers, texts,
booleans, tuples and lists, and between integers and floats; ordering other values is an
error. Floats are totally ordered with NaN above every other float, so NaN equals NaN.
-/

namespace ShaderVariants.Starlark

/-! ## Integer bit operations on two's complement -/

/-- Bitwise and of two integers in two's complement. -/
def Int.bitAnd (a b : Int) : Int :=
  match a, b with
  | .ofNat x, .ofNat y => .ofNat (x &&& y)
  | .ofNat x, .negSucc y => .ofNat (x - (x &&& y))
  | .negSucc x, .ofNat y => .ofNat (y - (y &&& x))
  | .negSucc x, .negSucc y => .negSucc (x ||| y)

/-- Bitwise or of two integers in two's complement. -/
def Int.bitOr (a b : Int) : Int :=
  match a, b with
  | .ofNat x, .ofNat y => .ofNat (x ||| y)
  | .ofNat x, .negSucc y => .negSucc (y - (y &&& x))
  | .negSucc x, .ofNat y => .negSucc (x - (x &&& y))
  | .negSucc x, .negSucc y => .negSucc (x &&& y)

/-- Bitwise exclusive or of two integers in two's complement. -/
def Int.bitXor (a b : Int) : Int :=
  match a, b with
  | .ofNat x, .ofNat y => .ofNat (x ^^^ y)
  | .ofNat x, .negSucc y => .negSucc (x ^^^ y)
  | .negSucc x, .ofNat y => .negSucc (x ^^^ y)
  | .negSucc x, .negSucc y => .ofNat (x ^^^ y)

/-! ## Values -/

/-- The built-in functions, and those the host adds. -/
inductive Builtin where
  | abs | all | any | bool | bytes | chr | dict | dir | enumerate | fail | float | getattr
  | hasattr | hash | int | len | list | max | min | ord | print | range | repr | reversed | set
  | sorted | str | tuple | type | zip
  | combinations | env
  deriving DecidableEq, Repr, Inhabited

/-- The name a built-in function is called by. -/
def Builtin.name : Builtin → String
  | abs => "abs" | all => "all" | any => "any" | bool => "bool" | bytes => "bytes"
  | chr => "chr" | dict => "dict" | dir => "dir" | enumerate => "enumerate" | fail => "fail"
  | float => "float" | getattr => "getattr" | hasattr => "hasattr" | hash => "hash"
  | int => "int" | len => "len" | list => "list" | max => "max" | min => "min" | ord => "ord"
  | print => "print" | range => "range" | repr => "repr" | reversed => "reversed"
  | set => "set" | sorted => "sorted" | str => "str" | tuple => "tuple" | type => "type"
  | zip => "zip" | combinations => "combinations" | env => "env"

/-- Every built-in function. -/
def Builtin.all' : List Builtin :=
  [.abs, .all, .any, .bool, .bytes, .chr, .dict, .dir, .enumerate, .fail, .float, .getattr,
    .hasattr, .hash, .int, .len, .list, .max, .min, .ord, .print, .range, .repr, .reversed,
    .set, .sorted, .str, .tuple, .type, .zip, .combinations, .env]

/-- How a text or byte string is walked by one of its views. -/
inductive TextView where
  /-- A text's bytes, each as a text of one byte. -/
  | elems
  /-- A text's byte values. -/
  | elemOrds
  /-- A text's characters, each as a text (a stray byte as itself). -/
  | codepoints
  /-- A text's character values, a stray byte as U+FFFD. -/
  | codepointOrds
  /-- A byte string's byte values. -/
  | byteElems
  deriving DecidableEq, Repr, Inhabited

/-- The type name of a view: the two views of a text's bytes are one type, and so are the two
views of its characters. -/
def TextView.typeName : TextView → String
  | elems | elemOrds => "string.elems"
  | codepoints | codepointOrds => "string.codepoints"
  | byteElems => "bytes.elems"

/-- The method that makes a view. -/
def TextView.method : TextView → String
  | elems | byteElems => "elems"
  | elemOrds => "elem_ords"
  | codepoints => "codepoints"
  | codepointOrds => "codepoint_ords"

/-- A Starlark value. -/
inductive Value where
  | none
  | bool (b : Bool)
  | int (n : Int)
  | float (x : Float)
  | str (s : Bytes)
  | bytes (s : Bytes)
  | tuple (items : List Value)
  /-- A list in the store. -/
  | list (ref : Nat)
  /-- A dict in the store. -/
  | dict (ref : Nat)
  /-- A set in the store. -/
  | set (ref : Nat)
  | range (start stop step : Int)
  /-- A text or byte string seen as a sequence that can only be walked. -/
  | view (kind : TextView) (s : Bytes)
  /-- A function in the store. -/
  | function (ref : Nat)
  | builtin (b : Builtin)
  /-- A built-in method bound to the value it was taken from. -/
  | method (recv : Value) (name : Bytes)
  deriving Inhabited

/-- A parameter of a function, with its default already computed. -/
inductive ParamSpec where
  | required (name : Bytes)
  | optional (name : Bytes) (default : Value)
  /-- `*` alone, or `*name` collecting extra positional arguments. -/
  | varargs (name : Option Bytes)
  /-- `**name`, collecting extra keyword arguments. -/
  | kwargs (name : Bytes)

/-- A function made by `def` or `lambda`. -/
structure Closure where
  name : Bytes
  /-- The place of the definition: all functions made by one definition share it. -/
  site : Pos
  params : List ParamSpec
  body : List Stmt
  /-- The frame the definition was run in. -/
  frame : Nat
  /-- The names local to the body. -/
  locals : List Bytes

/-- The kinds of frame. -/
inductive FrameKind where
  | module
  | function
  | comprehension
  deriving DecidableEq, Repr

/-- A frame of names: the names it owns, the values bound so far, and the frame around it. -/
structure Frame where
  kind : FrameKind
  names : List Bytes
  values : List (Bytes × Value) := []
  parent : Option Nat := none

/-- What the store holds. A list, dict or set counts how many loops are walking it. -/
inductive Obj where
  | list (items : Array Value) (walkers : Nat)
  | dict (entries : Array (Value × Value)) (walkers : Nat)
  | set (items : Array Value) (walkers : Nat)
  | closure (c : Closure)
  | frame (f : Frame)
  deriving Inhabited

/-- The state of a run: the store, the definitions whose calls are in progress (innermost
first), and the environment variables the program may read. -/
structure Machine where
  heap : Array Obj := #[]
  calls : List Pos := []
  environment : List (Bytes × Bytes) := []

/-- A step of a run; a failure carries its message. -/
abbrev RunM := StateT Machine (Except Bytes)

/-- Fail with a message. -/
def RunM.fail {α : Type} (msg : String) : RunM α := throw (Bytes.ofString msg)

namespace Machine

/-- The object a reference names. -/
def obj? (m : Machine) (r : Nat) : Option Obj := m.heap[r]?

/-- The items of a list. -/
def listItems (m : Machine) (r : Nat) : Array Value :=
  match m.obj? r with
  | some (.list items _) => items
  | _ => #[]

/-- The entries of a dict, in order. -/
def dictEntries (m : Machine) (r : Nat) : Array (Value × Value) :=
  match m.obj? r with
  | some (.dict es _) => es
  | _ => #[]

/-- The items of a set, in order. -/
def setItems (m : Machine) (r : Nat) : Array Value :=
  match m.obj? r with
  | some (.set items _) => items
  | _ => #[]

/-- The function a reference names. -/
def closure? (m : Machine) (r : Nat) : Option Closure :=
  match m.obj? r with
  | some (.closure c) => some c
  | _ => none

end Machine

namespace RunM

/-- Put an object in the store; its reference. -/
def alloc (o : Obj) : RunM Nat := do
  let m ← get
  set { m with heap := m.heap.push o }
  return m.heap.size

/-- Replace the object at a reference. -/
def store (r : Nat) (o : Obj) : RunM Unit :=
  modify fun m => { m with heap := m.heap.set! r o }

/-- A new list. -/
def newList (items : List Value) : RunM Value := do
  return .list (← alloc (.list items.toArray 0))

end RunM

/-! ## Types, truth, length, iteration -/

namespace Value

/-- The name of a value's type. -/
def typeName : Value → String
  | none => "NoneType"
  | bool _ => "bool"
  | int _ => "int"
  | float _ => "float"
  | str _ => "string"
  | bytes _ => "bytes"
  | tuple _ => "tuple"
  | list _ => "list"
  | dict _ => "dict"
  | set _ => "set"
  | range .. => "range"
  | view k _ => k.typeName
  | function _ => "function"
  | builtin _ | method .. => "builtin_function_or_method"

/-- The number of items of a range. -/
def rangeLength (start stop step : Int) : Nat :=
  if step > 0 && start < stop then ((stop - start - 1) / step + 1).toNat
  else if step < 0 && start > stop then ((start - stop - 1) / (-step) + 1).toNat
  else 0

/-- The items of a range. -/
def rangeItems (start stop step : Int) : List Value :=
  (List.range (rangeLength start stop step)).map fun (i : Nat) => .int (start + (i : Int) * step)

/-- The length of a value that has one. -/
def length? (m : Machine) : Value → Option Nat
  | str s | bytes s => some s.length
  | tuple items => some items.length
  | list r => some (m.listItems r).size
  | dict r => some (m.dictEntries r).size
  | set r => some (m.setItems r).size
  | range a b c => some (rangeLength a b c)
  | _ => Option.none

/-- Whether a value counts as true. -/
def truth (m : Machine) : Value → Bool
  | none => false
  | bool b => b
  | int n => n != 0
  | float x => x != 0.0
  | v => match v.length? m with
    | some n => n != 0
    | Option.none => true

/-- The items a loop over the value walks: a list's or tuple's items, a dict's keys, a set's
items, a range's numbers. Texts cannot be walked. -/
def items? (m : Machine) : Value → Option (List Value)
  | tuple items => some items
  | list r => some (m.listItems r).toList
  | dict r => some ((m.dictEntries r).toList.map (·.1))
  | set r => some (m.setItems r).toList
  | range a b c => some (rangeItems a b c)
  | view k s => some (match k with
    | .elems => s.map fun b => str [b]
    | .elemOrds | .byteElems => s.map fun b => int b.toNat
    | .codepoints => (Glyph.decode s).map fun g => str g.bytes
    | .codepointOrds => (Glyph.decode s).map fun g => int g.code)
  | _ => Option.none

/-- The reference of a value that lives in the store and can be walked. -/
def walkRef? : Value → Option Nat
  | list r | dict r | set r => some r
  | _ => Option.none

end Value

/-! ## Numbers -/

/-- The exact value of a finite float as `num / 2^k`. -/
def Float.toDyadic? (x : Float) : Option (Int × Nat) :=
  if x.isNaN || x.isInf then Option.none
  else
    let bits := x.toBits
    let neg := bits >>> 63 == 1
    let e := ((bits >>> 52) &&& 0x7FF).toNat
    let f := (bits &&& 0xFFFFFFFFFFFFF).toNat
    let (mant, exp) : Nat × Int := if e == 0 then (f, -1074) else (f + Nat.pow 2 52, (e : Int) - 1075)
    let num : Int := if exp ≥ 0 then (mant * Nat.pow 2 exp.toNat : Nat) else mant
    let den : Nat := if exp ≥ 0 then 0 else exp.natAbs
    some (if neg then -num else num, den)

/-- Compare an integer with a finite float exactly: negative, zero or positive. -/
def compareIntFloat (n : Int) (x : Float) : Int :=
  match Float.toDyadic? x with
  | some (num, k) =>
    let lhs := n * Nat.pow 2 k
    if lhs < num then -1 else if lhs > num then 1 else 0
  | Option.none => if x.isNaN then -1 else if x > 0 then -1 else 1

/-- Compare two floats, NaN above everything and equal to itself. -/
def compareFloats (x y : Float) : Int :=
  if x > y then 1 else if x < y then -1 else if x == y then 0
  else if x == x then -1 else if y == y then 1 else 0

/-- The largest finite float. -/
def maxFloat : Float := Float.ofScientific 17976931348623157 false 292

/-- An integer as a float, or the message of one too large. -/
def Int.toFloatChecked (n : Int) : Except Bytes Float :=
  let x := Float.ofInt n
  if x.isInf then .error (Bytes.ofString "int too large to convert to float") else .ok x

/-- The text of a float: the fewest digits that read back, in exponent form below `1e-4` and
from `1e6` on, with `.0` added when neither a point nor an exponent shows. -/
def floatText (x : Float) : Bytes :=
  if x.isNaN then Bytes.ofString "nan"
  else if x.isInf then Bytes.ofString (if x > 0 then "+inf" else "-inf")
  else
    let s := writeFloat FloatStyle.substitution x
    if s.any (fun b => b == 46 || b == 101) then s else s ++ Bytes.ofString ".0"

/-- The integer a float truncates to. -/
def Float.truncInt (x : Float) : Int :=
  match Float.toDyadic? x with
  | some (num, k) => Int.tdiv num (Nat.pow 2 k)
  | Option.none => 0

/-! ## Equality, order, keys -/

/-- Whether two values have the same type for comparison (built-ins and bound methods are one
type). -/
def sameType : Value → Value → Bool
  | .none, .none | .bool _, .bool _ | .int _, .int _ | .float _, .float _ | .str _, .str _
  | .bytes _, .bytes _ | .tuple _, .tuple _ | .list _, .list _ | .dict _, .dict _
  | .set _, .set _ | .range .., .range .. | .function _, .function _ => true
  | .view k1 _, .view k2 _ => k1.typeName == k2.typeName
  | .builtin _, .builtin _ | .builtin _, .method .. | .method .., .builtin _
  | .method .., .method .. => true
  | _, _ => false

/-- Whether a three-way comparison result satisfies a comparison operator. -/
def threeway (op : BinOp) (c : Int) : Bool :=
  match op with
  | .eq => c == 0
  | .ne => c != 0
  | .le => c ≤ 0
  | .lt => c < 0
  | .ge => c ≥ 0
  | .gt => c > 0
  | _ => false

/-- Byte-wise order of texts. -/
def compareBytes (a b : Bytes) : Int :=
  if Bytes.lt a b then -1 else if Bytes.lt b a then 1 else 0

/-- The message of a comparison that is not defined. -/
def notImplemented (op : BinOp) (x y : Value) : Bytes :=
  Bytes.ofString (x.typeName ++ " " ++ op.spelling ++ " " ++ y.typeName ++ " not implemented")

mutual

/-- Compare two values by a comparison operator. `fuel` bounds the nesting of containers. -/
def compare (m : Machine) : Nat → BinOp → Value → Value → Except Bytes Bool
  | 0, _, _, _ => .error (Bytes.ofString "comparison exceeded maximum recursion depth")
  | fuel + 1, op, x, y =>
    if sameType x y then
      match x, y with
      | .int a, .int b => .ok (threeway op (if a < b then -1 else if a > b then 1 else 0))
      | .float a, .float b => .ok (threeway op (compareFloats a b))
      | .str a, .str b | .bytes a, .bytes b => .ok (threeway op (compareBytes a b))
      | .bool a, .bool b =>
        .ok (threeway op ((if a then 1 else 0 : Int) - (if b then 1 else 0 : Int)))
      | .tuple a, .tuple b => compareSeq m fuel op a b
      | .list a, .list b => compareSeq m fuel op (m.listItems a).toList (m.listItems b).toList
      | .dict a, .dict b =>
        match op with
        | .eq => dictEqual m fuel a b
        | .ne => (dictEqual m fuel a b).map (!·)
        | _ => .error (notImplemented op x y)
      | .set a, .set b =>
        match op with
        | .eq => setEqual m fuel a b
        | .ne => (setEqual m fuel a b).map (!·)
        | _ => .error (notImplemented op x y)
      | .range a1 b1 c1, .range a2 b2 c2 =>
        let same :=
          let n1 := Value.rangeLength a1 b1 c1
          let n2 := Value.rangeLength a2 b2 c2
          n1 == n2 && (n1 == 0 || (a1 == a2 && (n1 == 1 || c1 == c2)))
        match op with
        | .eq => .ok same
        | .ne => .ok (!same)
        | _ => .error (notImplemented op x y)
      | .none, .none =>
        match op with
        | .eq => .ok true
        | .ne => .ok false
        | _ => .error (notImplemented op x y)
      | .function a, .function b =>
        match op with
        | .eq => .ok (a == b)
        | .ne => .ok (a != b)
        | _ => .error (notImplemented op x y)
      | .builtin a, .builtin b =>
        match op with
        | .eq => .ok (a == b)
        | .ne => .ok (a != b)
        | _ => .error (notImplemented op x y)
      | .view k1 s1, .view k2 s2 =>
        match op with
        | .eq => .ok (k1 == k2 && s1 == s2)
        | .ne => .ok !(k1 == k2 && s1 == s2)
        | _ => .error (notImplemented op x y)
      | _, _ =>
        match op with
        | .eq => .ok false
        | .ne => .ok true
        | _ => .error (notImplemented op x y)
    else
      match x, y with
      | .int a, .float b => .ok (threeway op (compareIntFloat a b))
      | .float a, .int b => .ok (threeway op (-compareIntFloat b a))
      | _, _ =>
        match op with
        | .eq => .ok false
        | .ne => .ok true
        | _ => .error (notImplemented op x y)

/-- Compare two sequences item by item, then by length. -/
def compareSeq (m : Machine) : Nat → BinOp → List Value → List Value → Except Bytes Bool
  | 0, _, _, _ => .error (Bytes.ofString "comparison exceeded maximum recursion depth")
  | fuel + 1, op, a, b =>
    if a.length != b.length && (op == .eq || op == .ne) then .ok (op == .ne)
    else
      match a, b with
      | x :: xs, y :: ys => do
        if ← compare m fuel .eq x y then compareSeq m fuel op xs ys
        else
          match op with
          | .eq => .ok false
          | .ne => .ok true
          | _ => compare m fuel op x y
      | _, _ =>
        .ok (threeway op ((a.length : Int) - (b.length : Int)))

/-- Whether two dicts have the same keys with equal values. -/
def dictEqual (m : Machine) : Nat → Nat → Nat → Except Bytes Bool
  | 0, _, _ => .error (Bytes.ofString "comparison exceeded maximum recursion depth")
  | fuel + 1, a, b => do
    let xs := m.dictEntries a
    let ys := m.dictEntries b
    if xs.size != ys.size then return false
    for (k, v) in xs.toList do
      match ← findKey m fuel ys.toList k with
      | some (_, w) => if !(← compare m fuel .eq v w) then return false
      | Option.none => return false
    return true

/-- Whether two sets have the same items. -/
def setEqual (m : Machine) : Nat → Nat → Nat → Except Bytes Bool
  | 0, _, _ => .error (Bytes.ofString "comparison exceeded maximum recursion depth")
  | fuel + 1, a, b => do
    let xs := m.setItems a
    let ys := m.setItems b
    if xs.size != ys.size then return false
    for x in xs.toList do
      match ← findKey m fuel (ys.toList.map (·, Value.none)) x with
      | some _ => pure ()
      | Option.none => return false
    return true

/-- The entry of a key in a list of entries, compared by equality. -/
def findKey (m : Machine) : Nat → List (Value × Value) → Value →
    Except Bytes (Option (Value × Value))
  | 0, _, _ => .error (Bytes.ofString "comparison exceeded maximum recursion depth")
  | _, [], _ => .ok Option.none
  | fuel + 1, (k, v) :: rest, key => do
    if ← compare m fuel .eq k key then return some (k, v) else findKey m fuel rest key

end

/-- The depth to which containers are compared. -/
def compareDepth : Nat := 1000

/-- Whether two values are equal. -/
def Value.equal (m : Machine) (x y : Value) : Except Bytes Bool := compare m compareDepth .eq x y

/-- Check that a value can be a dict key or set item: lists, dicts and sets cannot, nor tuples
holding one. -/
def Value.checkHashable : Value → Except Bytes Unit
  | .list _ => .error (Bytes.ofString "unhashable type: list")
  | .dict _ => .error (Bytes.ofString "unhashable type: dict")
  | .set _ => .error (Bytes.ofString "unhashable type: set")
  | .view k _ => .error (Bytes.ofString ("unhashable: " ++ k.typeName))
  | .tuple items => items.attach.forM fun ⟨x, _⟩ => x.checkHashable
  | _ => .ok ()

/-- The index of a key among a dict's entries, or the message of an unhashable key. -/
def keyIndex (m : Machine) (entries : Array (Value × Value)) (key : Value) :
    Except Bytes (Option Nat) := do
  key.checkHashable
  let mut i := 0
  for (k, _) in entries.toList do
    if ← compare m compareDepth .eq k key then return some i
    i := i + 1
  return Option.none

/-! ## Written forms -/

/-- The quoted form of a text: `"` … `"` with backslash escapes. -/
def quoteText (s : Bytes) : Bytes := Bytes.quote s

/-- The written form of a value, as `repr` gives it. `path` holds the containers being written,
so that a container inside itself is written `[...]` or `{...}`. -/
def Value.repr (m : Machine) (path : List Nat) : Nat → Value → Bytes
  | 0, _ => Bytes.ofString "..."
  | fuel + 1, v =>
    match v with
    | .none => Bytes.ofString "None"
    | .bool b => Bytes.ofString (if b then "True" else "False")
    | .int n => Bytes.ofInt n
    | .float x => floatText x
    | .str s => quoteText s
    | .bytes s => [98] ++ quoteText s
    | .tuple items =>
      let inner := Bytes.intercalate (Bytes.ofString ", ")
        (items.attach.map fun ⟨x, _⟩ => Value.repr m path fuel x)
      [40] ++ inner ++ (if items.length == 1 then [44] else []) ++ [41]
    | .list r =>
      if path.contains r then Bytes.ofString "[...]"
      else
        [91] ++ Bytes.intercalate (Bytes.ofString ", ")
          ((m.listItems r).toList.map (Value.repr m (r :: path) fuel)) ++ [93]
    | .dict r =>
      if path.contains r then Bytes.ofString "\x7b...\x7d"
      else
        [123] ++ Bytes.intercalate (Bytes.ofString ", ")
          ((m.dictEntries r).toList.map fun (k, x) =>
            Value.repr m path fuel k ++ Bytes.ofString ": " ++ Value.repr m (r :: path) fuel x) ++
          [125]
    | .set r =>
      Bytes.ofString "set([" ++ Bytes.intercalate (Bytes.ofString ", ")
        ((m.setItems r).toList.map (Value.repr m path fuel)) ++ Bytes.ofString "])"
    | .range a b c =>
      if a == 0 && c == 1 then Bytes.ofString "range(" ++ Bytes.ofInt b ++ [41]
      else if c == 1 then
        Bytes.ofString "range(" ++ Bytes.ofInt a ++ Bytes.ofString ", " ++ Bytes.ofInt b ++ [41]
      else
        Bytes.ofString "range(" ++ Bytes.ofInt a ++ Bytes.ofString ", " ++ Bytes.ofInt b ++
          Bytes.ofString ", " ++ Bytes.ofInt c ++ [41]
    | .view k s =>
      (if k == .byteElems then [98] else []) ++ quoteText s ++ Bytes.ofString "." ++
        Bytes.ofString k.method ++ Bytes.ofString "()"
    | .function r =>
      let name := match m.closure? r with
        | some c => c.name
        | Option.none => Bytes.ofString "lambda"
      Bytes.ofString "<function " ++ name ++ [62]
    | .builtin b => Bytes.ofString ("<built-in function " ++ b.name ++ ">")
    | .method recv name =>
      Bytes.ofString "<built-in method " ++ name ++ Bytes.ofString " of " ++
        Bytes.ofString recv.typeName ++ Bytes.ofString " value>"

/-- The depth to which values are written. -/
def writeDepth : Nat := 1000

/-- The written form of a value, as `repr` gives it. -/
def Value.show (m : Machine) (v : Value) : Bytes := v.repr m [] writeDepth

/-- The text of a value, as `str` gives it: a text as it is, anything else written. -/
def Value.text (m : Machine) : Value → Bytes
  | .str s => s
  | v => v.show m

end ShaderVariants.Starlark
