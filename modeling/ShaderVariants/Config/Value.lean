import ShaderVariants.Decimal.Shortest
import ShaderVariants.Text.Bytes
import ShaderVariants.Text.Quoted
/-!
# Decoded configuration values

A configuration file, whatever its format, decodes into a tree of values: tables with text
keys, lists, and scalars. The kinds of integer and of date a format produces are kept apart,
because messages name them (`Value.typeName`).

`Value.literal` writes a value whole, as a message shows a value it refuses: a container as its
type name followed by its items in braces.

`Value.format` writes a scalar as the text a `#{name}` reference is replaced by. A float keeps
a decimal point, so that `1.0` stays a float literal in shader code: it is written with the
fewest digits that read back (`Decimal/Shortest`), in exponent form when its decimal exponent is
below -4 or at least 6 (`1e+06`, `1.5e-07`: a sign and at least two exponent digits), and gets
`.0` appended when the result has no point, exponent, or letter of `NaN` or `Inf` in it.
-/

namespace ShaderVariants

/-- A decoded configuration value. -/
inductive Value where
  | null
  | bool (b : Bool)
  | str (s : Bytes)
  /-- A machine integer. -/
  | int (n : Int)
  /-- A 64-bit signed integer. -/
  | int64 (n : Int)
  /-- A 64-bit unsigned integer. -/
  | uint64 (n : Nat)
  | float (x : Float)
  /-- A timestamp with a time zone, as written. -/
  | time (text : Bytes)
  /-- A date without a time zone, as written. -/
  | localDate (text : Bytes)
  /-- A date and time without a time zone, as written. -/
  | localDateTime (text : Bytes)
  /-- A time of day, as written. -/
  | localTime (text : Bytes)
  | list (items : List Value)
  /-- A table whose keys are all texts. -/
  | table (entries : List (Bytes × Value))
  /-- A table with some key that is not a text. -/
  | mixedTable (entries : List (Value × Value))
  deriving Repr, Inhabited

namespace Value

/-- The name of a value's type, as messages give it. -/
def typeName : Value → Bytes
  | null => Bytes.ofString "<nil>"
  | bool _ => Bytes.ofString "bool"
  | str _ => Bytes.ofString "string"
  | int _ => Bytes.ofString "int"
  | int64 _ => Bytes.ofString "int64"
  | uint64 _ => Bytes.ofString "uint64"
  | float _ => Bytes.ofString "float64"
  | time _ => Bytes.ofString "time.Time"
  | localDate _ => Bytes.ofString "toml.LocalDate"
  | localDateTime _ => Bytes.ofString "toml.LocalDateTime"
  | localTime _ => Bytes.ofString "toml.LocalTime"
  | list _ => Bytes.ofString "[]interface {}"
  | table _ => Bytes.ofString "map[string]interface {}"
  | mixedTable _ => Bytes.ofString "map[interface {}]interface {}"

end Value

/-- How a float is written: where exponent form starts and how the exponent looks. -/
structure FloatStyle where
  /-- Exponent form for decimal exponents below this. -/
  minPositional : Int
  /-- Exponent form for decimal exponents at or above this. -/
  maxPositional : Int
  /-- The fewest digits an exponent is written with. -/
  exponentDigits : Nat

/-- The style of substituted floats. -/
def FloatStyle.substitution : FloatStyle := ⟨-4, 6, 2⟩

namespace FloatStyle

/-- The decimal digits of a natural number. -/
def digits (n : Nat) : Bytes := Bytes.ofNat n

/-- A decimal `0.d₁d₂…dₙ × 10^point` written in the style: `digits` are its significant digits
(none for zero). -/
def write (st : FloatStyle) (ds : Bytes) (point : Int) : Bytes :=
  let exp := point - 1
  if ds.isEmpty then Bytes.ofString "0"
  else if exp < st.minPositional || exp ≥ st.maxPositional then
    let mant := match ds with
      | d :: [] => [d]
      | d :: rest => d :: 46 :: rest
      | [] => []
    let e := Bytes.ofNat exp.natAbs
    let padded := List.replicate (st.exponentDigits - e.length) 48 ++ e
    mant ++ [101, if exp < 0 then 45 else 43] ++ padded
  else if point ≤ 0 then
    Bytes.ofString "0." ++ List.replicate point.natAbs 48 ++ ds
  else if point.toNat ≥ ds.length then
    ds ++ List.replicate (point.toNat - ds.length) 48
  else ds.take point.toNat ++ 46 :: ds.drop point.toNat

end FloatStyle

/-- A float in the given style, with the fewest digits that read back. -/
def writeFloat (st : FloatStyle) (x : Float) : Bytes :=
  let bits := x.toBits
  let negative := bits >>> 63 == 1
  let sign : Bytes := if negative then [45] else []
  if x.isNaN then Bytes.ofString "NaN"
  else if x.isInf then (if negative then Bytes.ofString "-Inf" else Bytes.ofString "+Inf")
  else
    match Shortest.Binary.ofBits bits with
    | none => sign ++ st.write [] 0
    | some b =>
      let d := b.shortest
      let ds := Bytes.ofNat d.coeff
      sign ++ st.write ds (d.exp + ds.length)

/-- A substituted float: written in the substitution style, with `.0` appended when nothing in
it marks it as a float. -/
def substituteFloat (x : Float) : Bytes :=
  let s := writeFloat FloatStyle.substitution x
  if s.any (fun b => [46, 101, 69, 110, 78].contains b) then s else s ++ Bytes.ofString ".0"

namespace Value

/-- The substitution text of a scalar, or the type name of a value that is not one. -/
def format : Value → Except Bytes Bytes
  | str s => .ok s
  | bool b => .ok (Bytes.ofString (if b then "true" else "false"))
  | int n | int64 n => .ok (Bytes.ofInt n)
  | uint64 n => .ok (Bytes.ofNat n)
  | float x => .ok (substituteFloat x)
  | v => .error v.typeName

/-- Pairs joined by a colon and sorted by their first part, as a table's entries are shown. -/
def entriesText (entries : List (Bytes × Bytes)) : List Bytes :=
  (entries.mergeSort fun a b => !Bytes.lt b.1 a.1).map fun (k, v) => Bytes.quote k ++ [58] ++ v

/-- A container's type name and its items, comma-separated, in braces. -/
def braced (v : Value) (items : List Bytes) : Bytes :=
  v.typeName ++ [123] ++ Bytes.intercalate (Bytes.ofString ", ") items ++ [125]

mutual

/-- A value written whole: texts quoted, unsigned integers in hexadecimal, floats with the
fewest digits that read back, a missing value as `interface {}(nil)`, and a container as its
type name and its items in braces, a table's entries in order of their keys. -/
def literal : Value → Bytes
  | null => Bytes.ofString "interface \x7b\x7d(nil)"
  | bool b => Bytes.ofString (if b then "true" else "false")
  | str s => Bytes.quote s
  | int n | int64 n => Bytes.ofInt n
  | uint64 n => Bytes.ofString "0x" ++ (Nat.toDigits 16 n).map (fun c => c.toNat.toUInt8)
  | float x => writeFloat FloatStyle.substitution x
  | time t | localDate t | localDateTime t | localTime t => Bytes.quote t
  | v@(list items) => braced v (literals items)
  | v@(table entries) => braced v (entriesText (entryLiterals entries))
  | v@(mixedTable entries) => braced v (pairLiterals entries)

/-- The items of a list, each written whole. -/
def literals : List Value → List Bytes
  | [] => []
  | v :: rest => literal v :: literals rest

/-- The entries of a table, their values written whole. -/
def entryLiterals : List (Bytes × Value) → List (Bytes × Bytes)
  | [] => []
  | (k, v) :: rest => (k, literal v) :: entryLiterals rest

/-- The entries of a table with keys of any kind, written whole. -/
def pairLiterals : List (Value × Value) → List Bytes
  | [] => []
  | (k, v) :: rest => (literal k ++ [58] ++ literal v) :: pairLiterals rest

end


end Value

end ShaderVariants
