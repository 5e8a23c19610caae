import ShaderVariants.Config
import ShaderVariants.Config.Value
/-!
# From a decoded document to a configuration

A decoded document is a table of values. Its keys are read in byte order, and so are the keys
of each shader table and each permutation table. A table of flags or of values is walked as a
map: in an order the map does not fix (`MapOrder`), stopping at the first entry of the wrong
kind, so when two entries of one such table are wrong, which of them the fault names depends on
that order. The configuration itself does not: its flags and values are kept in byte order of
their names. Unknown keys are faults, so that a misspelt setting is not dropped silently. A shader is a path or a table (`name`, `path`, `permutations`) and is named
after the last element of its path when no name is given; a permutation is a table (`name`,
`flags`, `values`). Flags must be booleans, values scalars (written as `Value.format` writes
them), and the job count an integer, a 64-bit unsigned one taken modulo 2^64 as a signed one.
-/

namespace ShaderVariants

/-- What a setting had to be. -/
inductive Wanted where
  | list
  | table
  | string
  | boolean
  | integer
  | scalar
  | pathOrTable
  deriving DecidableEq, Repr

/-- How a message names what was wanted. -/
def Wanted.phrase : Wanted → Bytes
  | list => Bytes.ofString "a list"
  | table => Bytes.ofString "a table"
  | string => Bytes.ofString "a string"
  | boolean => Bytes.ofString "a boolean"
  | integer => Bytes.ofString "an integer"
  | scalar => Bytes.ofString "a scalar"
  | pathOrTable => Bytes.ofString "a path or a table"

/-- Why a document is not a configuration. `place` names the setting, as `shaders[0].name`. -/
inductive ShapeFault where
  | unknownKey (key : Bytes)
  | unknownEntryKey (place : Bytes) (key : Bytes)
  | mismatch (place : Bytes) (wanted : Wanted) (got : Bytes)
  deriving DecidableEq, Repr

/-- The message of a shape fault. -/
def ShapeFault.message : ShapeFault → Bytes
  | unknownKey k => Bytes.ofString "unknown key " ++ k.quote
  | unknownEntryKey p k => p ++ Bytes.ofString ": unknown key " ++ k.quote
  | mismatch p w t => p ++ Bytes.ofString ": expected " ++ w.phrase ++ Bytes.ofString ", got " ++ t

namespace Decode

/-- A failed or finished decoding step. -/
abbrev Result (α : Type) := Except ShapeFault α

/-- `place.key`. -/
def dot (place key : Bytes) : Bytes := place ++ [46] ++ key

/-- `place[i]`. -/
def index (place : Bytes) (i : Nat) : Bytes := place ++ [91] ++ Bytes.ofNat i ++ [93]

/-- The entries of a table in byte order of their keys. -/
def sorted (t : Table Value) : List (Bytes × Value) :=
  t.names.map fun k => (k, (t.get? k).getD .null)

/-- A table: nothing stands for an empty one. -/
def table (v : Value) (place : Bytes) : Result (Table Value) :=
  match v with
  | .null => .ok []
  | .table t => .ok t
  | v => .error (.mismatch place .table v.typeName)

/-- A text. -/
def string (v : Value) (place : Bytes) : Result Bytes :=
  match v with
  | .str s => .ok s
  | v => .error (.mismatch place .string v.typeName)

/-- A list of texts. -/
def strings (v : Value) (place : Bytes) : Result (List Bytes) :=
  match v with
  | .list items =>
    items.zipIdx.mapM fun (x, i) => string x (index place i)
  | v => .error (.mismatch place .list v.typeName)

/-- An integer; a 64-bit unsigned one is read modulo 2^64 as a signed one. -/
def integer (v : Value) (place : Bytes) : Result Int :=
  match v with
  | .int n | .int64 n => .ok n
  | .uint64 n => .ok (if n < Nat.pow 2 63 then n else (n : Int) - Nat.pow 2 64)
  | v => .error (.mismatch place .integer v.typeName)

/-- A table of flags, its entries met in the order `o` gives. -/
def flags (o : MapOrder Value) (v : Value) (place : Bytes) : Result Flags := do
  let t ← table v place
  Table.rangeM (o place t) fun (k, x) =>
    match x with
    | .bool b => .ok (k, b)
    | x => .error (.mismatch (dot place k) .boolean x.typeName)

/-- A table of values, each scalar written as its substitution text, its entries met in the
order `o` gives. -/
def values (o : MapOrder Value) (v : Value) (place : Bytes) : Result Values := do
  let t ← table v place
  Table.rangeM (o place t) fun (k, x) =>
    match x.format with
    | .ok s => .ok (k, s)
    | .error ty => .error (.mismatch (dot place k) .scalar ty)

/-- One key of a shader table. -/
def shaderKey (place : Bytes) (s : ShaderEntry) (kv : Bytes × Value) : Result ShaderEntry :=
  let (k, x) := kv
  if k == Bytes.ofString "name" then do return { s with name := ← string x (dot place k) }
  else if k == Bytes.ofString "path" then do return { s with path := ← string x (dot place k) }
  else if k == Bytes.ofString "permutations" then do
    return { s with permutations := ← strings x (dot place k) }
  else .error (.unknownEntryKey place k)

/-- One shader: a path, or a table. -/
def shader (v : Value) (place : Bytes) : Result ShaderEntry := do
  let s ← match v with
    | .str p => .ok { path := p }
    | .table t => (sorted t).foldlM (shaderKey place) {}
    | v => .error (.mismatch place .pathOrTable v.typeName)
  return if s.name.isEmpty then { s with name := Path.base s.path } else s

/-- The list of shaders. -/
def shaders (v : Value) : Result (List ShaderEntry) :=
  match v with
  | .list items => items.zipIdx.mapM fun (x, i) => shader x (index (Bytes.ofString "shaders") i)
  | v => .error (.mismatch (Bytes.ofString "shaders") .list v.typeName)

/-- One key of a permutation table. -/
def permutationKey (o : MapOrder Value) (place : Bytes) (p : Permutation) (kv : Bytes × Value) :
    Result Permutation :=
  let (k, x) := kv
  if k == Bytes.ofString "name" then do return { p with name := ← string x (dot place k) }
  else if k == Bytes.ofString "flags" then do return { p with flags := ← flags o x (dot place k) }
  else if k == Bytes.ofString "values" then do
    return { p with values := ← values o x (dot place k) }
  else .error (.unknownEntryKey place k)

/-- The list of permutations. -/
def permutations (o : MapOrder Value) (v : Value) : Result (List Permutation) :=
  match v with
  | .list items => items.zipIdx.mapM fun (x, i) =>
      let place := index (Bytes.ofString "permutations") i
      match x with
      | .table t => (sorted t).foldlM (permutationKey o place) {}
      | x => .error (.mismatch place .table x.typeName)
  | v => .error (.mismatch (Bytes.ofString "permutations") .list v.typeName)

/-- One top-level key. -/
def topKey (o : MapOrder Value) (c : Config) (kv : Bytes × Value) : Result Config :=
  let (k, x) := kv
  let is (s : String) := k == Bytes.ofString s
  if is "flags" then do return { c with flags := ← flags o x k }
  else if is "values" then do return { c with values := ← values o x k }
  else if is "shaders" then do return { c with shaders := ← shaders x }
  else if is "permutations" then do return { c with permutations := ← permutations o x }
  else if is "output_dir" then do return { c with outputDir := ← string x k }
  else if is "compiler" then do return { c with compiler := ← string x k }
  else if is "jobs" then do return { c with jobs := ← integer x k }
  else if is "cache_dir" then do return { c with cacheDir := ← string x k }
  else .error (.unknownKey k)

end Decode

/-- The configuration a decoded document describes, the tables of flags and values walked in the
order `o` gives. -/
def Config.ofDocumentIn (o : MapOrder Value) (doc : Table Value) : Except ShapeFault Config :=
  (Decode.sorted doc).foldlM (Decode.topKey o) {}

/-- The configuration a decoded document describes, each table of flags or values walked in the
order its entries were decoded in. -/
def Config.ofDocument (doc : Table Value) : Except ShapeFault Config :=
  Config.ofDocumentIn .stored doc

end ShaderVariants
