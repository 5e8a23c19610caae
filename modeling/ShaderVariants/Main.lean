import ShaderVariants.Config.Load
import ShaderVariants.Config.Overrides
import ShaderVariants.Batch
/-!
# The command line

`shadervariants COMMAND [OPTIONS]` runs one of:

* `expand FILE`: expand one source file and print it (`--map` puts each line's origin before
  it, `-o FILE` writes to a file);
* `pair PATH`: expand `PATH.vert` and `PATH.frag` with the same flags and values;
* `build`: build every shader of the configuration in every permutation and write the outputs
  (`--dry-run` writes nothing, `-o DIR` picks the output directory).

Options common to all: `--config FILE` (a `.yaml`, `.yml`, `.toml` or `.star` configuration),
`--flag NAME[=BOOL]` and `--value NAME=TEXT` (repeatable), `-p NAME` to start from a
permutation of the configuration, and `--max-include-depth N`.

This layer reads and writes files and decides nothing. Sources are read on demand: a command
runs against the files read so far, and when it fails for want of a file the file is read from
disk and the command runs again.
-/

namespace ShaderVariants.CommandLine

/-- The parsed command line. -/
structure Request where
  command : String := ""
  args : List String := []
  config : String := ""
  flags : List String := []
  values : List String := []
  permutation : String := ""
  maxDepth : Int := 0
  output : String := ""
  map : Bool := false
  dryRun : Bool := false
  failFast : Bool := false

/-- The options that take a value. -/
def valued : List String :=
  ["--config", "--flag", "--value", "-p", "--permutation", "--max-include-depth", "-o", "--output",
    "-j", "--jobs", "--compiler", "--cache"]

/-- Set an option that takes a value. -/
def Request.set (r : Request) (name v : String) : Request :=
  match name with
  | "--config" => { r with config := v }
  | "--flag" => { r with flags := r.flags ++ [v] }
  | "--value" => { r with values := r.values ++ [v] }
  | "-p" | "--permutation" => { r with permutation := v }
  | "--max-include-depth" => { r with maxDepth := v.toInt?.getD 0 }
  | "-o" | "--output" => { r with output := v }
  | _ => r

/-- An argument split at its first `=` when it is an option. -/
def option (a : String) : String × Option String :=
  match a.splitOn "=" with
  | n :: v :: more => if n.startsWith "-" then (n, some ("=".intercalate (v :: more))) else (a, none)
  | _ => (a, none)

/-- Read the command line: options may stand anywhere, as `--name VALUE` or
`--name=VALUE`. -/
def Request.parse : List String → Request → Except String Request
  | [], r => .ok r
  | a :: rest, r =>
    let (name, inline) := option a
    if valued.contains name then
      match inline with
      | some v => Request.parse rest (r.set name v)
      | none =>
        match rest with
        | v :: more => Request.parse more (r.set name v)
        | [] => .error ("flag needs an argument: " ++ name)
    else if name == "--map" then Request.parse rest { r with map := true }
    else if name == "--dry-run" then Request.parse rest { r with dryRun := true }
    else if name == "--fail-fast" then Request.parse rest { r with failFast := true }
    else if name == "-v" || name == "--verbose" then Request.parse rest r
    else if a.startsWith "-" && a != "-" then .error ("unknown flag: " ++ a)
    else if r.command.isEmpty then Request.parse rest { r with command := a }
    else Request.parse rest { r with args := r.args ++ [a] }

/-- The bytes of a text. -/
def bytes (s : String) : Bytes := Bytes.ofString s

/-- The text of bytes, with stray bytes replaced. -/
def text (b : Bytes) : String := String.fromUTF8! (ByteArray.mk b.toArray)

/-- The file a load failure wants, when it is one the disk may still hold. -/
def LoadFailure.wanted? : LoadFailure → Option Bytes
  | .missing p => some p
  | _ => none

/-- The file an expansion failure wants. -/
def ExpandFailure.wanted? : ExpandFailure → Option Bytes
  | .unreadable _ c | .problem (.unreadable _ _ c) => LoadFailure.wanted? c
  | _ => none

/-- The file a pair failure wants. -/
def PairFailure.wanted? : PairFailure → Option Bytes
  | .unreadable _ _ c | .problem _ (.unreadable _ _ c) => LoadFailure.wanted? c
  | _ => none

/-- Run a command against the files read so far, reading the files it wants from disk until
it wants none that the disk holds. -/
partial def withFiles {α : Type} (files : Table Bytes) (run : Loader → α)
    (wanted : α → Option Bytes) : IO α := do
  let result := run (Loader.ofTable files)
  match wanted result with
  | some p =>
    if files.mem (Path.clean p) then return result
    match ← (IO.FS.readBinFile (text p)).toBaseIO with
    | .ok data => withFiles ((Path.clean p, data.toList) :: files) run wanted
    | .error _ => return result
  | none => return result

/-- Load the configuration a request names. A Starlark configuration may read the environment
variables it names in its string literals. -/
def loadConfig (r : Request) : IO (Except Bytes Config) := do
  if r.config.isEmpty then return .error (bytes "no config file given (use --config)")
  match ← (IO.FS.readBinFile r.config).toBaseIO with
  | .error e => return .error (bytes ("loading config " ++ r.config ++ ": " ++ toString e))
  | .ok data =>
    let content := data.toList
    let names := Starlark.Program.textLiterals content
    let mut environment : List (Bytes × Bytes) := []
    for n in names do
      if let some v ← IO.getEnv (text n) then environment := environment ++ [(n, bytes v)]
    return (Config.load environment (bytes r.config) content).mapError (·.message)

/-- The flags and values of a session: the configuration's, then the chosen permutation's,
then the command line's. -/
def settings (r : Request) : IO (Except Bytes (Flags × Values)) := do
  let mut base : Flags × Values := ([], [])
  if !r.config.isEmpty then
    match ← loadConfig r with
    | .error e => return .error e
    | .ok cfg =>
      base := (cfg.flags, cfg.values)
      if !r.permutation.isEmpty then
        match cfg.permutation? (bytes r.permutation) with
        | some p => base := p.merge cfg.flags cfg.values
        | none => return .error (bytes "unknown permutation " ++ Bytes.quote (bytes r.permutation))
  else if !r.permutation.isEmpty then
    return .error (bytes "--permutation needs --config")
  return (applyOverrides base.1 base.2 (r.flags.map bytes) (r.values.map bytes)).mapError
    (·.message)

/-- A pair path given with or without its stage's extension. -/
def pairPath (arg : String) : String :=
  if arg.endsWith ".vert" || arg.endsWith ".frag" then String.ofList (arg.toList.dropLast.dropLast.dropLast.dropLast.dropLast)
  else arg

/-- Write a file, making its directory first. -/
def writeFile (path : Bytes) (content : Bytes) : IO Unit := do
  let p : String := text path
  let dir := text (Path.dir path)
  if dir != "" && dir != "." then IO.FS.createDirAll dir
  IO.FS.writeBinFile p (ByteArray.mk content.toArray)

/-- Run a request; the message of its failure, if it fails. -/
def run (r : Request) : IO (Except Bytes Unit) := do
  let out ← IO.getStdout
  match r.command with
  | "expand" =>
    let [file] := r.args | return .error (bytes "expand takes one file")
    match ← settings r with
    | .error e => return .error e
    | .ok (flags, values) =>
      let result ← withFiles [] (fun loader =>
        Session.expandFile { flags, values, loader, maxDepth := r.maxDepth } (bytes file))
        fun x => match x with
          | .error e => ExpandFailure.wanted? e
          | .ok _ => none
      match result with
      | .error e => return .error e.message
      | .ok e =>
        let body := if r.map then
            let lines := (Bytes.dropFinalLf e.text).splitOn 10
            Bytes.intercalate [] ((if e.text.isEmpty then [] else lines).zipIdx.map fun (l, i) =>
              let o := match e.origin? (i + 1) with
                | some p => p.file ++ [58] ++ Bytes.ofInt p.line
                | none => []
              o ++ [9] ++ l ++ [10])
          else e.text
        if r.output.isEmpty then out.write (ByteArray.mk body.toArray)
        else writeFile (bytes r.output) body
        return .ok ()
  | "pair" =>
    let [arg] := r.args | return .error (bytes "pair takes one path")
    match ← settings r with
    | .error e => return .error e
    | .ok (flags, values) =>
      let result ← withFiles [] (fun loader =>
        Pair.load { flags, values, loader, maxDepth := r.maxDepth } (bytes (pairPath arg)))
        fun x => match x with
          | .error e => PairFailure.wanted? e
          | .ok _ => none
      match result with
      | .error e => return .error e.message
      | .ok p =>
        for s in [p.vertex, p.fragment] do
          out.putStr ("// ---- " ++ text s.stage.name ++ " (" ++ text s.file ++ ") ----\n")
          out.write (ByteArray.mk s.expansion.text.toArray)
        return .ok ()
  | "build" =>
    match ← loadConfig r with
    | .error e => return .error e
    | .ok cfg =>
      match applyOverrides [] [] (r.flags.map bytes) (r.values.map bytes) with
      | .error e => return .error e.message
      | .ok (flags, values) =>
        let report ← withFiles [] (fun loader =>
          Batch.run cfg
            { outputDir := bytes r.output, dryRun := r.dryRun, failFast := r.failFast, loader,
              flags, values }
            {})
          fun rep => rep.results.findSome? fun u => match u.failure with
            | some (.load e) => PairFailure.wanted? e
            | _ => none
        for u in report.results do
          let status := if u.failure.isSome then "FAILED" else "ok    "
          out.putStrLn (status ++ " " ++ text u.shader ++ " [" ++ text u.permutation ++ "]")
        if !r.dryRun then
          for (path, content) in report.disk.files.reverse do writeFile path content
        match report.failure? with
        | some m => return .error m
        | none => return .ok ()
  | "" => return .error (bytes "no command given (expand, pair or build)")
  | c => return .error (bytes ("unknown command " ++ "\"" ++ c ++ "\" for \"shadervariants\""))

end ShaderVariants.CommandLine

open ShaderVariants in
/-- Run the command line; a failure is logged and ends the program with status 1. -/
def main (argv : List String) : IO UInt32 := do
  match CommandLine.Request.parse argv {} with
  | .error e =>
    IO.eprintln ("level=ERROR msg=fatal error=" ++ e)
    return 1
  | .ok r =>
    match ← CommandLine.run r with
    | .ok () => return 0
    | .error e =>
      IO.eprintln ("level=ERROR msg=fatal error=" ++ CommandLine.text (Bytes.quote e))
      return 1
