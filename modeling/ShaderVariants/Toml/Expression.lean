import ShaderVariants.Text.Bytes
/-!
# The expressions of a TOML document

A TOML document is a sequence of lines, each holding at most one expression: a key-value
pair, a table header `[a.b]`, or an array-of-tables header `[[a.b]]`. A key is a list of
parts, written dotted. Values are kept as written (`Literal`): strings with their escapes
already resolved, and numbers and dates as their text, which is read only when the document
is built, so that a badly formed number is reported where it is used.
-/

namespace ShaderVariants.Toml

/-- A dotted key, as its parts. -/
abbrev Key := List Bytes

/-- The kinds of date and time a value can be. -/
inductive Moment where
  /-- A date and time with an offset from UTC. -/
  | offsetDateTime
  | localDateTime
  | localDate
  | localTime
  deriving DecidableEq, Repr

/-- A value as written. -/
inductive Literal where
  | string (s : Bytes)
  | bool (b : Bool)
  | integer (text : Bytes)
  | float (text : Bytes)
  | moment (kind : Moment) (text : Bytes)
  | array (items : List Literal)
  | inlineTable (entries : List (Key × Literal))
  deriving Inhabited, Repr

/-- An expression of a document. -/
inductive Expression where
  | keyValue (key : Key) (value : Literal)
  /-- `[key]`. -/
  | table (key : Key)
  /-- `[[key]]`. -/
  | arrayTable (key : Key)
  deriving Inhabited, Repr

end ShaderVariants.Toml
