import ShaderVariants.Config.Decode
import ShaderVariants.Yaml.Document
import ShaderVariants.Starlark.Program
import ShaderVariants.Toml.Document
/-!
# Loading a configuration file

A configuration file is read in the format its extension names, in any case: `.yaml` and
`.yml` for YAML, `.toml` for TOML, `.star` for a Starlark program. The decoded document is
turned into a configuration (`Config.ofDocument`), its root set to the file's directory, and
the result validated. Each of the three steps has its own message prefix, so a message says
which step failed.
-/

namespace ShaderVariants

/-- The formats a configuration can be written in. -/
inductive Format where
  | yaml
  | toml
  | starlark
  deriving DecidableEq, Repr

/-- The format a file's extension names, if it names one. -/
def Format.ofExtension? (ext : Bytes) : Option Format :=
  let e := Bytes.toLower ext
  if e == Bytes.ofString ".yaml" || e == Bytes.ofString ".yml" then some .yaml
  else if e == Bytes.ofString ".toml" then some .toml
  else if e == Bytes.ofString ".star" then some .starlark
  else none

/-- Why a configuration file could not be loaded. -/
inductive ConfigFailure where
  /-- The extension names no format (given in lower case). -/
  | unsupported (ext : Bytes)
  /-- The file is not a document of its format. -/
  | undecodable (path cause : Bytes)
  /-- The document does not describe a configuration. -/
  | shape (path : Bytes) (fault : ShapeFault)
  /-- The configuration breaks a rule. -/
  | invalid (path : Bytes) (violation : Violation)
  deriving Repr

/-- The text of a load failure. -/
def ConfigFailure.message : ConfigFailure → Bytes
  | .unsupported ext => Bytes.ofString "unsupported config format " ++ Bytes.quote ext ++
      Bytes.ofString " (want .yaml, .yml, .toml or .star)"
  | .undecodable path cause => Bytes.ofString "loading config " ++ path ++ Bytes.ofString ": " ++
      cause
  | .shape path f => Bytes.ofString "config " ++ path ++ Bytes.ofString ": " ++ f.message
  | .invalid path v => Bytes.ofString "validating config " ++ path ++ Bytes.ofString ": " ++
      v.message

/-- The document a file's text decodes to in a format, or why it does not. A Starlark
program is run, and `environment` holds the variables it may read. -/
def Format.decode (f : Format) (environment : List (Bytes × Bytes)) (path text : Bytes) :
    Except Bytes (Table Value) :=
  match f with
  | .yaml =>
    match Yaml.readTable text with
    | .ok t => .ok t
    | .error r => .error (Bytes.ofString "decoding yaml: " ++ r.message)
  | .toml => (Toml.readTable text).mapError (Bytes.ofString "decoding toml: " ++ ·)
  | .starlark => Starlark.Program.readTable path text environment

/-- The configuration in a file with the given path and text; `environment` holds the
variables a Starlark configuration may read. -/
def Config.load (environment : List (Bytes × Bytes)) (path text : Bytes) :
    Except ConfigFailure Config := do
  let ext := Bytes.toLower (Path.ext path)
  let some format := Format.ofExtension? ext | throw (.unsupported ext)
  let doc ← match format.decode environment path text with
    | .ok d => pure d
    | .error cause => throw (.undecodable path cause)
  let cfg ← match Config.ofDocument doc with
    | .ok c => pure c
    | .error f => throw (.shape path f)
  let cfg := { cfg with root := Path.dir path }
  match cfg.validate with
  | .ok () => pure cfg
  | .error v => throw (.invalid path v)

end ShaderVariants
