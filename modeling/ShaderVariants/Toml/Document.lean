import ShaderVariants.Toml.Expression.Parser
import ShaderVariants.Config.Value
import ShaderVariants.Decimal.Read
import ShaderVariants.Table
import ShaderVariants.Text.Quoted
/-!
# TOML documents

A document is read one expression at a time, and each expression is used before the next is
read: first its keys are checked against those already defined (`Definitions`), then its
value is read into a configuration value, then it is put into the document. So the first
problem in the document's order is the one reported, whether the reader, the definitions or a
value finds it.

The definitions follow the rules of TOML tables: a key is defined once; a table header names a
table at most once, and not one that keys of an earlier table already made; an array of tables
may be extended by further headers of its name, each starting a new table in which the keys of
the previous one are forgotten. Values read as follows:

* integers, decimal (no leading zero) or with a base prefix, with underscores only between
  digits, must fit in 64 bits;
* floats need digits on both sides of a point, no leading zero, and must not round past the
  largest double; `inf` and `nan` may carry a sign;
* dates are `YYYY-MM-DD` with a real day, times `HH:MM:SS` with an optional fraction, and an
  offset is `Z` or `±HH:MM`.

Every message starts with `toml: `.
-/

namespace ShaderVariants.Toml

/-! ## Integers -/

/-- The text of a failed integer reading, as number readers report it: `invalid syntax` or
`value out of range`, with the text read. -/
def numberFailure (reader : String) (s : Bytes) (outOfRange : Bool) : Bytes :=
  Bytes.ofString ("strconv." ++ reader ++ ": parsing ") ++ Bytes.quote s ++
    Bytes.ofString (if outOfRange then ": value out of range" else ": invalid syntax")

/-- Read a signed 64-bit integer in a base: an optional sign, then digits of the base. A
non-digit is refused where it stands, and so is a value that leaves 64 bits as it grows. -/
def readInt64 (s : Bytes) (base : Nat) : Except Bytes Int := do
  let (neg, digits) := match s with
    | 43 :: r => (false, r)
    | 45 :: r => (true, r)
    | _ => (false, s)
  if digits.isEmpty then throw (numberFailure "ParseInt" s false)
  let mut n : Nat := 0
  for c in digits do
    let d := match Decimal.digitValue? c with
      | some d => d
      | none => base
    if d ≥ base then throw (numberFailure "ParseInt" s false)
    if n ≥ (Nat.pow 2 64 - 1) / base + 1 then throw (numberFailure "ParseInt" s true)
    n := n * base + d
    if n > Nat.pow 2 64 - 1 then throw (numberFailure "ParseInt" s true)
  if (!neg && n ≥ Nat.pow 2 63) || (neg && n > Nat.pow 2 63) then throw (numberFailure "ParseInt" s true)
  return if neg then -(n : Int) else n

/-- An integer's digits without their underscores, which may stand only between digits. -/
def integerDigits (b : Bytes) : Except Bytes Bytes := do
  let start := match b with
    | 43 :: _ | 45 :: _ => 1
    | _ => 0
  if b.length == start then return b
  if b[start]? == some 95 then refuse "number cannot start with underscore"
  if b.getLast? == some 95 then refuse "number cannot end with underscore"
  let lead := b.takeWhile (· != 95)
  if lead.length == b.length then return b
  let mut before := false
  let mut cleaned := lead
  for c in b.drop (lead.length + 1) do
    if c == 95 then
      if !before then refuse "number must have at least one digit between underscores"
      before := false
    else
      before := true
      cleaned := cleaned ++ [c]
  return cleaned

/-- Read an integer as written: decimal, or hexadecimal, octal or binary after its prefix. -/
def readInteger (b : Bytes) : Except Bytes Int := do
  let based (base : Nat) (name : String) : Except Bytes Int := do
    let cleaned ← integerDigits (b.drop 2)
    match readInt64 cleaned base with
    | .ok n => return n
    | .error e => throw (Bytes.ofString ("couldn't parse " ++ name ++ " number: ") ++ e)
  match b with
  | 48 :: 120 :: _ :: _ => based 16 "hexadecimal"
  | 48 :: 111 :: _ :: _ => based 8 "octal"
  | 48 :: 98 :: _ :: _ => based 2 "binary"
  | _ =>
    let cleaned ← integerDigits b
    let unsigned := match cleaned with
      | 43 :: r | 45 :: r => r
      | r => r
    match unsigned with
    | 48 :: _ :: _ => refuse "leading zero not allowed on decimal number"
    | _ => pure ()
    match readInt64 cleaned 10 with
    | .ok n => return n
    | .error e => throw (Bytes.ofString "couldn't parse decimal number: " ++ e)

/-! ## Floats -/

/-- A float's text without its underscores, which may stand only between digits and not next
to a point or an exponent mark. -/
def floatDigits (b : Bytes) : Except Bytes Bytes := do
  if b.head? == some 95 then refuse "number cannot start with underscore"
  if b.getLast? == some 95 then refuse "number cannot end with underscore"
  if !b.elem 95 then return b
  let mut before := false
  let mut cleaned : Bytes := []
  let mut prev : Option UInt8 := none
  for (c, i) in b.zipIdx do
    let next := b[i + 1]?
    if c == 95 then
      if !before then refuse "number must have at least one digit between underscores"
      if next == some 101 || next == some 69 then refuse "cannot have underscore before exponent"
      before := false
    else if c == 43 || c == 45 then
      cleaned := cleaned ++ [c]
      before := false
    else if c == 101 || c == 69 then
      if next == some 95 then refuse "cannot have underscore after exponent"
      cleaned := cleaned ++ [c]
    else if c == 46 then
      if next == some 95 then refuse "cannot have underscore after decimal point"
      if prev == some 95 then refuse "cannot have underscore before decimal point"
      cleaned := cleaned ++ [c]
    else
      before := true
      cleaned := cleaned ++ [c]
    prev := some c
  return cleaned

/-- Whether a text is a decimal number in full: a sign, digits, a point with digits, an
exponent with digits. -/
def decimalForm (s : Bytes) : Bool :=
  let s := match s with
    | 43 :: r | 45 :: r => r
    | r => r
  let whole := s.takeWhile isDigit
  let s := s.drop whole.length
  let (fracOk, s) := match s with
    | 46 :: r =>
      let frac := r.takeWhile isDigit
      (!frac.isEmpty, r.drop frac.length)
    | r => (true, r)
  let expOk := match s with
    | [] => true
    | e :: r =>
      (e == 101 || e == 69) &&
        let r := match r with
          | 43 :: q | 45 :: q => q
          | q => q
        !r.isEmpty && r.all isDigit
  !whole.isEmpty && fracOk && expOk

/-- Read a float as written. -/
def readFloat (b : Bytes) : Except Bytes Float := do
  if b == Bytes.ofString "+nan" || b == Bytes.ofString "-nan" then return 0.0 / 0.0
  let cleaned ← floatDigits b
  if cleaned.head? == some 46 then refuse "float cannot start with a dot"
  if cleaned.getLast? == some 46 then refuse "float cannot end with a dot"
  let mut seenDot := false
  for (c, i) in cleaned.zipIdx do
    if c == 46 then
      if seenDot then refuse "float can have at most one decimal point"
      if !((cleaned[i - 1]?.map isDigit).getD false) then
        refuse "float decimal point must be preceded by a digit"
      if !((cleaned[i + 1]?.map isDigit).getD false) then
        refuse "float decimal point must be followed by a digit"
      seenDot := true
  let unsigned := match cleaned with
    | 43 :: r | 45 :: r => r
    | r => r
  match unsigned with
  | 48 :: d :: _ => if isDigit d then refuse "float integer part cannot have leading zeroes"
  | _ => pure ()
  match Decimal.readFloat? cleaned with
  | some x => return x
  | none =>
    throw (Bytes.ofString "unable to parse float: " ++
      numberFailure "ParseFloat" cleaned (decimalForm cleaned))

/-! ## Dates and times -/

/-- The value of a run of decimal digits. -/
def readDigits (b : Bytes) : Except Bytes Nat :=
  b.foldlM (fun n c => if isDigit c then .ok (n * 10 + (c.toNat - 48))
    else refuse "expected digit (0-9)") 0

/-- Whether a year is a leap year. -/
def isLeapYear (y : Nat) : Bool := y % 4 == 0 && (y % 100 != 0 || y % 400 == 0)

/-- The number of days of a month. -/
def daysIn (month year : Nat) : Nat :=
  if month == 2 then (if isLeapYear year then 29 else 28)
  else if month == 4 || month == 6 || month == 9 || month == 11 then 30
  else 31

/-- Check a date `YYYY-MM-DD`. -/
def checkDate (b : Bytes) : Except Bytes Unit := do
  if b.length != 10 || b[4]? != some 45 || b[7]? != some 45 then
    refuse "dates are expected to have the format YYYY-MM-DD"
  let year ← readDigits (b.take 4)
  let month ← readDigits ((b.drop 5).take 2)
  let day ← readDigits ((b.drop 8).take 2)
  if !(0 < month && month < 13 && 0 < day && day ≤ daysIn month year) then
    refuse "impossible date"

/-- Check a time `HH:MM:SS` with an optional fraction; what follows it. -/
def checkTime (b : Bytes) : Except Bytes Bytes := do
  if b.length < 8 then refuse "times are expected to have the format HH:MM:SS[.NNNNNN]"
  let hour ← readDigits (b.take 2)
  if hour > 23 then refuse "hour cannot be greater 23"
  if b[2]? != some 58 then refuse "expecting colon between hours and minutes"
  let minute ← readDigits ((b.drop 3).take 2)
  if minute > 59 then refuse "minutes cannot be greater 59"
  if b[5]? != some 58 then refuse "expecting colon between minutes and seconds"
  let second ← readDigits ((b.drop 6).take 2)
  if second > 60 then refuse "seconds cannot be greater 60"
  match b.drop 8 with
  | [46] => refuse "nanoseconds need at least one digit"
  | 46 :: r =>
    let digits := r.takeWhile isDigit
    if digits.isEmpty then refuse "need at least one digit after fraction point"
    return r.drop digits.length
  | r => return r

/-- Check a date and time; what follows the time. -/
def checkDateTime (b : Bytes) : Except Bytes Bytes := do
  if b.length < 11 then
    refuse "local datetimes are expected to have the format YYYY-MM-DDTHH:MM:SS[.NNNNNNNNN]"
  checkDate (b.take 10)
  let sep := b[10]?
  if !(sep == some 84 || sep == some 32 || sep == some 116) then
    refuse "datetime separator is expected to be T or a space"
  checkTime (b.drop 11)

/-- Check a date and time with an offset: `Z`, or a sign and `HH:MM`. -/
def checkOffsetDateTime (b : Bytes) : Except Bytes Unit := do
  let rest ← checkDateTime b
  let rest ← match rest with
    | 90 :: r | 122 :: r => pure r
    | _ => do
      if rest.length != 6 then refuse "invalid date-time timezone"
      if !(rest.head? == some 45 || rest.head? == some 43) then
        refuse "invalid timezone offset character"
      if rest[3]? != some 58 then refuse "expected a : separator"
      let hours ← readDigits ((rest.drop 1).take 2)
      if hours > 23 then refuse "invalid timezone offset hours"
      let minutes ← readDigits ((rest.drop 4).take 2)
      if minutes > 59 then refuse "invalid timezone offset minutes"
      pure (rest.drop 6)
  if !rest.isEmpty then refuse "extra bytes at the end of the timezone"

/-- Check a date or time of its kind; the configuration value it reads as. -/
def readMoment (kind : Moment) (b : Bytes) : Except Bytes Value := do
  match kind with
  | .localDate =>
    checkDate b
    return .localDate b
  | .localTime =>
    if !(← checkTime b).isEmpty then refuse "extra characters at the end of a local time"
    return .localTime b
  | .localDateTime =>
    if !(← checkDateTime b).isEmpty then
      refuse "extra characters at the end of a local date time"
    return .localDateTime b
  | .offsetDateTime =>
    checkOffsetDateTime b
    return .time b

/-! ## Building tables -/

/-- Change the value at the end of a path with `f`, making the missing tables on the way. An
array of tables on the way stands for its last table. -/
def Value.modifyAt : List Bytes → (Value → Value) → Value → Value
  | [], f, v => f v
  | k :: ks, f, .table es =>
    let enter (c : Value) : Value :=
      match c with
      | .list items =>
        match items.reverse with
        | last :: before => .list ((modifyAt ks f last :: before).reverse)
        | [] => .list []
      | c => modifyAt ks f c
    if es.any (·.1 == k) then .table (es.map fun (k', c) => if k' == k then (k', enter c) else (k', c))
    else .table (es ++ [(k, modifyAt ks f (.table []))])
  | _, _, v => v

/-- Set a key of a table. -/
def Value.setKey (k : Bytes) (v : Value) : Value → Value
  | .table es =>
    if es.any (·.1 == k) then .table (es.map fun (k', c) => if k' == k then (k', v) else (k', c))
    else .table (es ++ [(k, v)])
  | t => t

/-- Start a new table in the array of tables under a key of a table, making the array if
missing. -/
def Value.appendTable (k : Bytes) : Value → Value
  | .table es =>
    if es.any (·.1 == k) then
      .table (es.map fun (k', c) =>
        if k' == k then
          match c with
          | .list items => (k', .list (items ++ [.table []]))
          | c => (k', c)
        else (k', c))
    else .table (es ++ [(k, .list [.table []])])
  | t => t

/-- The parts of a key before its last, and its last. -/
def Key.split (k : Key) : List Bytes × Bytes := (k.dropLast, k.getLastD [])

/-- The configuration value of a literal; `fuel` bounds the nesting of arrays and tables. -/
def Literal.read : Nat → Literal → Except Bytes Value
  | 0, _ => refuse "document nested too deeply"
  | fuel + 1, lit =>
    match lit with
    | .string s => return .str s
    | .bool b => return .bool b
    | .integer t => return .int64 (← readInteger t)
    | .float t => return .float (← readFloat t)
    | .moment kind t => readMoment kind t
    | .array items => return .list (← items.mapM (Literal.read fuel))
    | .inlineTable entries => do
      let mut t : Value := .table []
      for (k, l) in entries do
        let v ← Literal.read fuel l
        let (path, last) := Key.split k
        t := Value.modifyAt path (Value.setKey last v) t
      return t

/-! ## Keys already defined -/

/-- What a key was defined as. -/
inductive KeyKind where
  | value
  | table
  | arrayTable
  deriving DecidableEq, Repr, Inhabited

/-- How messages name a kind of key. -/
def KeyKind.name : KeyKind → String
  | value => "value"
  | table => "table"
  | arrayTable => "array table"

/-- A key met so far: its parent's index, its name and kind, whether it is fixed (no header may
open it again), whether a key-value pair made it and it is not fixed yet, and whether it still
counts (the keys of an array's table are forgotten when the next table of the array starts). -/
structure KeyEntry where
  parent : Nat
  name : Bytes
  kind : KeyKind
  explicit : Bool
  dotted : Bool := false
  live : Bool := true
  deriving Inhabited

/-- The keys met so far, and the table the next key-value pairs go in. Entry 0 is the
document's root; an entry's parent comes before it. -/
structure Definitions where
  entries : Array KeyEntry := #[{ parent := 0, name := [], kind := .table, explicit := false }]
  current : Nat := 0

namespace Definitions

/-- The entry of a name under a parent, if it counts. -/
def find? (d : Definitions) (parent : Nat) (name : Bytes) : Option Nat :=
  (d.entries.toList.zipIdx.find? fun (e, i) =>
    i != 0 && e.live && e.parent == parent && e.name == name).map (·.2)

/-- The entry at an index. -/
def entry (d : Definitions) (i : Nat) : KeyEntry := d.entries[i]?.getD default

/-- Add an entry; its index. -/
def create (d : Definitions) (parent : Nat) (name : Bytes) (kind : KeyKind) (explicit : Bool)
    (dotted : Bool) : Definitions × Nat :=
  ({ d with entries := d.entries.push { parent, name, kind, explicit, dotted } }, d.entries.size)

/-- Change an entry. -/
def modify (d : Definitions) (i : Nat) (f : KeyEntry → KeyEntry) : Definitions :=
  { d with entries := d.entries.modify i f }

/-- Fix the keys that key-value pairs made under an entry, at any depth, as a new header closes
the table they were made in. Tables that a header only passed through stay open, so a later
header may still name them. -/
def fixDotted (d : Definitions) (root : Nat) : Definitions :=
  let (entries, _) := d.entries.toList.zipIdx.foldl
    (fun (acc : Array KeyEntry × List Nat) (e, i) =>
      let (es, under) := acc
      if i > root && e.live && under.contains e.parent then
        (es.push (if e.dotted then { e with explicit := true, dotted := false } else e),
          i :: under)
      else (es.push e, under)) (#[], [root])
  { d with entries }

/-- Forget the keys under an entry. -/
def forget (d : Definitions) (idx : Nat) : Definitions :=
  let (entries, _) := d.entries.toList.zipIdx.foldl
    (fun (acc : Array KeyEntry × List Nat) (e, i) =>
      let (es, gone) := acc
      if i > idx && (e.parent == idx || gone.contains e.parent) then
        (es.push { e with live := false }, i :: gone)
      else (es.push e, gone)) (#[], [])
  { d with entries }

/-- Walk the parts of a header's key before the last, making missing tables. -/
def walkHeader (d : Definitions) (parts : List Bytes) : Except Bytes (Definitions × Nat) := do
  let mut d := d
  let mut parent := 0
  for k in parts do
    match d.find? parent k with
    | none =>
      let (d', i) := d.create parent k .table false false
      d := d'
      parent := i
    | some i =>
      if (d.entry i).kind == .value then
        throw (Bytes.ofString "expected " ++ k ++ Bytes.ofString " to be a table, not a value")
      parent := i
  return (d, parent)

/-- Check a table header `[key]`, and make its table the current one. -/
def enterTable (d : Definitions) (key : Key) : Except Bytes Definitions := do
  let d := d.fixDotted d.current
  let (path, last) := Key.split key
  let (d, parent) ← d.walkHeader path
  match d.find? parent last with
  | some i =>
    let e := d.entry i
    if e.kind != .table then
      throw (Bytes.ofString "key " ++ last ++
        Bytes.ofString (" should be a table, not a " ++ e.kind.name))
    if e.explicit then throw (Bytes.ofString "table " ++ last ++ Bytes.ofString " already exists")
    return { d.modify i fun e => { e with explicit := true } with current := i }
  | none =>
    let (d, i) := d.create parent last .table true false
    return { d with current := i }

/-- Check an array-of-tables header `[[key]]`, and make its new table the current one. -/
def enterArrayTable (d : Definitions) (key : Key) : Except Bytes Definitions := do
  let d := d.fixDotted d.current
  let (path, last) := Key.split key
  let (d, parent) ← d.walkHeader path
  match d.find? parent last with
  | some i =>
    let e := d.entry i
    if e.kind != .arrayTable then
      throw (Bytes.ofString ("key " ++ e.kind.name ++ " already exists as a ") ++ last ++
        Bytes.ofString ",  but should be an array table")
    return { d.forget i with current := i }
  | none =>
    let (d, i) := d.create parent last .arrayTable true false
    return { d with current := i }

mutual

/-- Check a key-value pair in the current table; `fuel` bounds the nesting of its value. -/
def defineValue : Nat → Definitions → Key → Literal → Except Bytes Definitions
  | 0, _, _, _ => refuse "document nested too deeply"
  | fuel + 1, d, key, lit => do
    let mut d := d
    let mut parent := d.current
    for (k, i) in key.zipIdx do
      match d.find? parent k with
      | none =>
        let (d', j) := d.create parent k .table false true
        d := d'
        parent := j
      | some j =>
        let e := d.entry j
        if i + 1 == key.length then
          throw (Bytes.ofString "key " ++ k ++ Bytes.ofString " is already defined")
        if e.kind != .table then
          throw (Bytes.ofString "expected " ++ k ++
            Bytes.ofString (" to be a table, not a " ++ e.kind.name))
        if e.explicit then
          throw (Bytes.ofString "cannot redefine table " ++ k ++
            Bytes.ofString " that has already been explicitly defined")
        parent := j
    d := d.modify parent fun e => { e with kind := .value }
    checkLiteral fuel lit
    return d

/-- Check the inline tables inside a value, each against its own keys only. -/
def checkLiteral : Nat → Literal → Except Bytes Unit
  | 0, _ => refuse "document nested too deeply"
  | fuel + 1, lit =>
    match lit with
    | .inlineTable entries => do
      let mut inner : Definitions := {}
      for (k, v) in entries do
        inner ← defineValue fuel inner k v
    | .array items => items.forM (checkLiteral fuel)
    | _ => pure ()

end

end Definitions

/-! ## Reading a document -/

/-- Read a TOML document into a table of configuration values, or the message of its first
problem. -/
def readTable (text : Bytes) : Except Bytes (Table Value) := do
  let fuel := text.length + 2
  let (doc, _) ← (go fuel text true {} (.table []) [] fuel).mapError
    (Bytes.ofString "toml: " ++ ·)
  match doc with
  | .table es => return es
  | _ => return []
where
  go (depth : Nat) (rest : Bytes) (first : Bool) (defs : Definitions) (doc : Value)
      (current : Key) : Nat → Except Bytes (Value × Definitions)
    | 0 => .ok (doc, defs)
    | fuel + 1 => do
      match ← Expression.next? rest first with
      | none => return (doc, defs)
      | some (e, rest) =>
        match e with
        | .keyValue k lit =>
          let defs ← defs.defineValue depth k lit
          let v ← lit.read depth
          let (path, last) := Key.split k
          go depth rest false defs (Value.modifyAt (current ++ path) (Value.setKey last v) doc) current
            fuel
        | .table k =>
          let defs ← defs.enterTable k
          go depth rest false defs (Value.modifyAt k id doc) k fuel
        | .arrayTable k =>
          let defs ← defs.enterArrayTable k
          let (path, last) := Key.split k
          go depth rest false defs (Value.modifyAt path (Value.appendTable last) doc) k fuel

end ShaderVariants.Toml
