import ShaderVariants.Starlark.Eval
import ShaderVariants.Starlark.Syntax.Parser
import ShaderVariants.Table
/-!
# Configuration programs

A configuration can be written as a Starlark program. The program is read (`Program.parse`),
its names and statements are checked (`Program.check`), and its statements are run in a fresh
machine whose module frame owns the program's globals. The configuration is what the program
leaves in the globals named by `documentKeys`; other globals are the program's own helpers.

The values of those globals become configuration values (`Value.toConfig`): `None`, texts,
booleans, integers of 64 bits, floats, lists and tuples (as lists), and dicts whose keys are
all texts (as tables). Anything else is refused, and a refusal inside a container says where:
`[i]: ` before a list item's problem, `KEY: ` before a dict value's.

A problem in reading, checking or running the program is reported after
`starlark execution error: `; a problem with a global's value after `global NAME: `. The
globals are walked as a map, in an order it does not fix; the document keeps them in order of
their names.
-/

namespace ShaderVariants.Starlark

/-- The fuel of a run: more than the nesting any run of the program can reach, since calls
cannot nest deeper than there are definitions, nor a definition's body deeper than the text. -/
def Program.fuel (text : Bytes) : Nat := 4 * (text.length + 8) * (text.length + 8)

/-- Run a program's text: read, check, run its statements. The globals the run leaves, with
the final machine; or the message of the first problem. `file` names the program in messages
that cite a place, and `environment` holds the variables `env` reads. -/
def Program.run (file text : Bytes) (environment : List (Bytes × Bytes)) :
    Except Bytes (List (Bytes × Value) × Machine) := do
  let ss ← (Program.parse text).mapError (·.render file)
  (Program.check file ss text.length).mapError (·.render file)
  let loaded := ss.flatMap fun
    | .load _ names _ => names.map (·.name)
    | _ => []
  let globals := (Stmt.listBoundNames ss).filter (!loaded.contains ·)
  let run : RunM (List (Bytes × Value)) := do
    let g ← RunM.alloc (.frame { kind := .module, names := globals })
    let f ← RunM.alloc (.frame { kind := .function, names := loaded, parent := some g })
    discard (RunM.execList (Program.fuel text) f ss)
    return (((← get).frame? g).map (·.values)).getD []
  run.run { environment }

/-- The texts a program writes as string literals, such as the names it may ask `env` for. -/
def Program.textLiterals (text : Bytes) : List Bytes :=
  (Token.scan text).1.toList.filterMap fun t =>
    match t.kind with
    | .string s => some s
    | _ => none

/-- The globals a configuration program sets for the configuration. -/
def documentKeys : List String :=
  ["flags", "values", "shaders", "permutations", "output_dir", "compiler", "jobs", "cache_dir"]

/-- A Starlark value as a configuration value; `fuel` bounds the nesting of containers. -/
def Value.toConfig (m : Machine) : Nat → Value → Except Bytes ShaderVariants.Value
  | 0, _ => .error (Bytes.ofString "value nested too deeply")
  | fuel + 1, v =>
    let items (xs : List Value) : Except Bytes ShaderVariants.Value := do
      let mut out : List ShaderVariants.Value := []
      for (x, i) in xs.zipIdx do
        match Value.toConfig m fuel x with
        | .ok c => out := out ++ [c]
        | .error e => throw (Bytes.ofString "[" ++ Bytes.ofNat i ++ Bytes.ofString "]: " ++ e)
      return .list out
    match v with
    | .none => .ok .null
    | .str s => .ok (.str s)
    | .bool b => .ok (.bool b)
    | .int n =>
      if -(Nat.pow 2 63 : Int) ≤ n && n < Nat.pow 2 63 then .ok (.int64 n)
      else .error (Bytes.ofString "integer " ++ Bytes.ofInt n ++ Bytes.ofString " out of range")
    | .float x => .ok (.float x)
    | .list r => items (m.listItems r).toList
    | .tuple xs => items xs
    | .dict r => do
      let mut out : List (Bytes × ShaderVariants.Value) := []
      for (k, x) in (m.dictEntries r).toList do
        match k with
        | .str key =>
          match Value.toConfig m fuel x with
          | .ok c => out := out ++ [(key, c)]
          | .error e => throw (key ++ Bytes.ofString ": " ++ e)
        | _ => throw (Bytes.ofString "dict key " ++ k.show m ++ Bytes.ofString " is not a string")
      return .table out
    | _ => .error (Bytes.ofString ("unsupported value of type " ++ v.typeName))

/-- The configuration document of a run: the globals the run leaves that `documentKeys` names,
walked as a map in the order `o` gives, each read as a configuration value, or the message of
the first one that cannot be read. A run that failed is reported after
`starlark execution error: `. -/
def Program.documentIn (o : MapOrder Value)
    (run : Except Bytes (List (Bytes × Value) × Machine)) :
    Except Bytes (Table ShaderVariants.Value) := do
  let (globals, m) ← run.mapError (Bytes.ofString "starlark execution error: " ++ ·)
  let keys := documentKeys.map Bytes.ofString
  Table.rangeM ((o [] globals).filter fun (k, _) => keys.contains k) fun (k, v) =>
    match Value.toConfig m writeDepth v with
    | .ok c => .ok (k, c)
    | .error e => .error (Bytes.ofString "global " ++ k ++ Bytes.ofString ": " ++ e)

/-- The configuration document a program's text sets, or the message of the first problem. The
globals are walked as a map, in the order `o` gives, and the first one that cannot be read as a
configuration value is reported. -/
def Program.readTableIn (o : MapOrder Value) (file text : Bytes)
    (environment : List (Bytes × Bytes)) : Except Bytes (Table ShaderVariants.Value) :=
  Program.documentIn o (Program.run file text environment)

/-- The configuration document a program's text sets, the globals walked in the order the run
bound them. -/
def Program.readTable (file text : Bytes) (environment : List (Bytes × Bytes)) :
    Except Bytes (Table ShaderVariants.Value) :=
  Program.readTableIn .stored file text environment

end ShaderVariants.Starlark
