import ShaderVariants.Decimal.Read
import ShaderVariants.Config.Value
import ShaderVariants.Yaml.Node
/-!
# What a YAML scalar stands for

A quoted or block scalar is text. A plain scalar is resolved by its spelling, and only a few
first characters can make it anything but text: a sign, a digit, a dot, `~`, or a letter that
begins `true`, `false`, `null` and their capitalised forms.

* `~`, `null`, `Null`, `NULL` and the empty scalar are null;
* `true`, `True`, `TRUE`, `false`, `False`, `FALSE` are booleans (`yes`, `on` stay text);
* `.inf`, `.nan` and their signed and capitalised forms are the special floats;
* a date `2001-12-14`, alone or with a time (`T`, `t` or blanks between; a fraction of a second
  after `.` or `,`; a zone `Z` or `±hh:mm`), is a timestamp; its day must exist in its month;
* otherwise, with underscores dropped, an integer that fits 64 signed bits (base prefixes
  allowed, a leading `0` is octal), else one that fits 64 unsigned bits, else a float of the
  shape `[+-](.digits | digits[.digits])[(e|E)[+-]digits]`.

An explicit tag asks for one of these kinds, however the scalar is written: `!!str` keeps the
text, an integer may stand for a float, and any other mismatch is a fault. Under a tag of the
document's own the text is kept; under `!!binary` it is base64 for the bytes meant. A timestamp
is a date value only when tagged so; otherwise it is kept as its text. A negative zero read
under `!!float` keeps its sign.
-/

namespace ShaderVariants.Yaml

/-! ## Tags -/

/-- A tag with the standard prefix written `!!`. -/
def shortTag (tag : Bytes) : Bytes :=
  match Bytes.dropPrefix? standardTagPrefix tag with
  | some rest => [33, 33] ++ rest
  | none => tag

/-- The standard tags by their short names. -/
def strTag : Bytes := Bytes.ofString "!!str"
/-- The null tag. -/
def nullTag : Bytes := Bytes.ofString "!!null"
/-- The boolean tag. -/
def boolTag : Bytes := Bytes.ofString "!!bool"
/-- The integer tag. -/
def intTag : Bytes := Bytes.ofString "!!int"
/-- The float tag. -/
def floatTag : Bytes := Bytes.ofString "!!float"
/-- The timestamp tag. -/
def timestampTag : Bytes := Bytes.ofString "!!timestamp"
/-- The sequence tag. -/
def seqTag : Bytes := Bytes.ofString "!!seq"
/-- The mapping tag. -/
def mapTag : Bytes := Bytes.ofString "!!map"
/-- The tag of the merge key `<<`. -/
def mergeTag : Bytes := Bytes.ofString "!!merge"
/-- The tag of base64-written bytes. -/
def binaryTag : Bytes := Bytes.ofString "!!binary"

/-! ## Dates -/

/-- A number field of a date or time: one or two digits, and the rest. -/
def twoDigits? (s : Bytes) : Option (Nat × Bytes) :=
  match s with
  | a :: b :: rest =>
    if Decimal.isDigit a && Decimal.isDigit b then some ((a.toNat - 48) * 10 + b.toNat - 48, rest)
    else if Decimal.isDigit a then some (a.toNat - 48, b :: rest) else none
  | [a] => if Decimal.isDigit a then some (a.toNat - 48, []) else none
  | [] => none

/-- The number of days of a month. -/
def daysIn (year month : Nat) : Nat :=
  if month == 2 then
    if year % 4 == 0 && (year % 100 != 0 || year % 400 == 0) then 29 else 28
  else if month == 4 || month == 6 || month == 9 || month == 11 then 30 else 31

/-- The text after one expected byte. -/
def expect? (b : UInt8) (s : Bytes) : Option Bytes :=
  match s with
  | c :: rest => if c == b then some rest else none
  | [] => none

/-- A date `yyyy-m-d` (month and day of one or two digits), as year, month and day, and the
rest. The month must be 1 to 12; the day is checked against the month once the whole text is
read. -/
def date? (s : Bytes) : Option ((Nat × Nat × Nat) × Bytes) := do
  let year := s.take 4
  if year.length != 4 || !year.all Decimal.isDigit then none
  let s ← expect? 45 (s.drop 4)
  let (month, s) ← twoDigits? s
  if month < 1 || month > 12 then none
  let s ← expect? 45 s
  let (day, s) ← twoDigits? s
  return ((year.foldl (fun n d => n * 10 + d.toNat - 48) 0, month, day), s)

/-- A time `h:m:s` (one or two digits each, below 24, 60 and 60) with an optional fraction of
a second, written after `.` or `,`; the rest. -/
def time? (s : Bytes) : Option Bytes := do
  let (h, s) ← twoDigits? s
  let s ← expect? 58 s
  let (m, s) ← twoDigits? s
  let s ← expect? 58 s
  let (sec, s) ← twoDigits? s
  if h ≥ 24 || m ≥ 60 || sec ≥ 60 then none
  match s with
  | p :: d :: rest =>
    if (p == 46 || p == 44) && Decimal.isDigit d then some (rest.dropWhile Decimal.isDigit)
    else some s
  | _ => some s

/-- Whether a text is a zone: `Z`, or a sign and `hh:mm` with at most 24 hours and 60
minutes. -/
def zone (s : Bytes) : Bool :=
  match s with
  | [90] => true
  | [sg, h1, h2, 58, m1, m2] =>
    (sg == 43 || sg == 45) && [h1, h2, m1, m2].all Decimal.isDigit &&
      (h1.toNat - 48) * 10 + h2.toNat - 48 ≤ 24 && (m1.toNat - 48) * 10 + m2.toNat - 48 ≤ 60
  | _ => false

/-- Whether the text after a date completes a timestamp: nothing; `T` or `t`, a time and a
zone; or blanks, and a time without a zone. -/
def timeRest (s : Bytes) : Bool :=
  match s with
  | [] => true
  | 84 :: t | 116 :: t => match time? t with
    | some z => zone z
    | none => false
  | 32 :: t => time? (t.dropWhile (· == 32)) == some []
  | _ => false

/-- Whether a scalar is a timestamp: a date whose day exists in its month, alone or followed by
a time. -/
def isTimestamp (s : Bytes) : Bool :=
  match date? s with
  | some ((y, month, day), rest) => day ≥ 1 && day ≤ daysIn y month && timeRest rest
  | none => false

/-! ## Resolution -/

/-- Whether the first character lets a plain scalar be other than text. -/
def mayResolve (s : Bytes) : Bool :=
  match s with
  | [] => true
  | c :: _ => "+-0123456789yYnNtTfFoO~.".toList.any (fun ch => c == ch.toUInt8)

/-- The spellings with a fixed meaning. -/
def fixedSpelling? (s : Bytes) : Option (Bytes × Value) :=
  let is (words : List String) := words.any fun w => s == Bytes.ofString w
  let inf : Float := 1.0 / 0.0
  if is ["true", "True", "TRUE"] then some (boolTag, .bool true)
  else if is ["false", "False", "FALSE"] then some (boolTag, .bool false)
  else if is ["", "~", "null", "Null", "NULL"] then some (nullTag, .null)
  else if is [".nan", ".NaN", ".NAN"] then some (floatTag, .float (0.0 / 0.0))
  else if is [".inf", ".Inf", ".INF", "+.inf", "+.Inf", "+.INF"] then some (floatTag, .float inf)
  else if is ["-.inf", "-.Inf", "-.INF"] then some (floatTag, .float (-inf))
  else none

/-- The shape a float must have to be read as one. -/
def floatShape (s : Bytes) : Bool :=
  let s := match s with | 43 :: r | 45 :: r => r | _ => s
  let (mant, rest) := match s with
    | 46 :: r =>
      let ds := r.takeWhile Decimal.isDigit
      (!ds.isEmpty, r.drop ds.length)
    | _ =>
      let ds := s.takeWhile Decimal.isDigit
      let r := s.drop ds.length
      match r with
      | 46 :: r' => (!ds.isEmpty, r'.dropWhile Decimal.isDigit)
      | _ => (!ds.isEmpty, r)
  mant && match rest with
    | [] => true
    | e :: r =>
      (e == 101 || e == 69) &&
        let r := match r with | 43 :: q | 45 :: q => q | _ => r
        !r.isEmpty && r.all Decimal.isDigit

/-- The kind and value of a plain scalar under an expected tag (`[]` for none): the tag it
resolves to and its value. -/
def resolveWith (tag text : Bytes) : Bytes × Value :=
  if tag == strTag || !mayResolve text then (strTag, .str text)
  else match fixedSpelling? text with
    | some r => r
    | none =>
      match text with
      | 46 :: _ =>
        match Decimal.readFloat? text with
        | some x => (floatTag, .float x)
        | none => (strTag, .str text)
      | _ =>
        if !(text.head?.map (fun c => Decimal.isDigit c || c == 43 || c == 45)).getD false then
          (strTag, .str text)
        else if (tag.isEmpty || tag == timestampTag) && isTimestamp text then
          (timestampTag, .time text)
        else
          let plain := text.filter (· != 95)
          match Decimal.readInt? plain with
          | some n => (intTag, .int n)
          | none =>
            match Decimal.readNat? plain with
            | some n => (intTag, .uint64 n)
            | none =>
              match (if floatShape plain then Decimal.readFloat? plain else none) with
              | some x => (floatTag, .float x)
              | none => (strTag, .str text)

/-- Whether a tag is one that resolution knows. -/
def resolvable (tag : Bytes) : Bool :=
  tag.isEmpty || [strTag, boolTag, intTag, floatTag, nullTag, timestampTag].contains tag

/-- A plain scalar under a tag: its kind and value, or the fault of a tag that does not fit. -/
def resolve (tag text : Bytes) : Except Fault (Bytes × Value) :=
  let tag := shortTag tag
  if !resolvable tag then .ok (tag, .str text)
  else
    let (rtag, v) := resolveWith tag text
    if tag.isEmpty || tag == rtag || tag == strTag then .ok (rtag, v)
    else if tag == floatTag && rtag == intTag then
      match v with
      | .int n =>
        -- a negative zero keeps its sign
        let x := if n == 0 && text.head? == some 45 then -0.0 else Float.ofInt n
        .ok (floatTag, .float x)
      | _ => .error (mismatch text rtag tag)
    else .error (mismatch text rtag tag)
where
  mismatch (text rtag tag : Bytes) : Fault :=
    Fault.general (Bytes.ofString "cannot decode " ++ rtag ++ Bytes.ofString " `" ++ text ++
      Bytes.ofString "` as a " ++ tag)

namespace Node

/-- The tag a node was given, when it was given one other than `!`. -/
def explicitTag? (n : Node) : Option Bytes :=
  let t := match n with
    | scalar _ _ t _ | sequence _ t _ | mapping _ t _ => t
  if t.isEmpty || t == [33] then none else some (shortTag t)

/-- Whether a node is text whatever it spells: tagged `!!str`, or quoted or a block scalar
without a tag of another kind (an explicit tag is resolved against the text however it is
written). -/
def isText : Node → Bool
  | n@(scalar _ style _ _) =>
    match n.explicitTag? with
    | some t => t == strTag
    | none => style != .plain
  | _ => false

/-- The kind of a node, as messages and key checks name it. -/
def kindTag (n : Node) : Bytes :=
  match n with
  | scalar text style _ _ =>
    match n.explicitTag? with
    | some t => t
    | none =>
      if style != .plain then strTag
      else if text == Bytes.ofString "<<" then mergeTag else (resolveWith [] text).1
  | sequence _ _ _ => n.explicitTag?.getD seqTag
  | mapping _ _ _ => n.explicitTag?.getD mapTag

end Node

end ShaderVariants.Yaml
