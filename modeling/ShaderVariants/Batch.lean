import ShaderVariants.Config
import ShaderVariants.Shader
import ShaderVariants.Disk
/-!
# Building every shader in every permutation

A batch run builds one *unit* for each shader of a configuration and each permutation the
shader is built in, in the configuration's order. A unit merges the permutation's flags and
values over the base ones, then the run's own over those; loads and expands the shader's pair;
compiles it when the run has a compiler; and, unless the run is dry, writes the expanded texts
(and the compiled binaries that are not empty) into the output directory, creating it first.

The output directory is the run's own, else the configuration's (read from its root), else the
configuration's root, else `.`; a unit's stage goes to `DIR/SHADER.PERMUTATION.vert` (or
`.frag`), and a binary next to it with `.spv` appended.

A unit also reports the permutation's flags that no condition of its pair names, sorted. The
run fails, after all units ran, when any unit failed. A fail-fast run stops at its first failure
instead: the failure cancels the run's context, every unit built after it stops before it starts
with the context's error, and the run fails with that first failure. `Batch.run` builds the units
one at a time, in order, as a run does with room for one unit at a time.
-/

namespace ShaderVariants

/-- What a run is given besides the configuration. -/
structure BatchOptions where
  /-- Compiles each loaded pair, when given. -/
  compiler : Option Compiler := none
  /-- Overrides the configuration's output directory when not empty. -/
  outputDir : Bytes := []
  /-- Expand and compile without writing. -/
  dryRun : Bool := false
  /-- Cancel the units not yet started after the first failure. -/
  failFast : Bool := false
  /-- Reads shader and included files. -/
  loader : Loader
  /-- Laid over every permutation's flags and values. -/
  flags : Flags := []
  values : Values := []

/-- Why a unit failed. -/
inductive UnitFailure where
  | load (e : PairFailure)
  | build (e : BuildFailure)
  | creating (e : WriteFault)
  | writing (e : WriteFault)

/-- The text of a unit failure. -/
def UnitFailure.message : UnitFailure → Bytes
  | .load e => e.message
  | .build .canceled => Bytes.ofString "context canceled"
  | .build (.compile e) => e.message
  | .creating e => Bytes.ofString "creating output directory: " ++ e.message
  | .writing e@(.unwritable p _) => Bytes.ofString "writing " ++ p ++ Bytes.ofString ": " ++ e.message
  | .writing e => e.message

/-- What one unit did. -/
structure UnitResult where
  shader : Bytes
  permutation : Bytes
  pair : Option Pair := none
  program : Option Program := none
  /-- The files written, in order. -/
  outputs : List Bytes := []
  /-- The permutation's flags that no condition of the pair names, sorted. -/
  unusedFlags : List Bytes := []
  failure : Option UnitFailure := none

/-- What a run did: its units' results, the output directory, the directory written into, and
the failure that stopped a fail-fast run. -/
structure BatchReport where
  results : List UnitResult
  outputDir : Bytes
  disk : Disk
  stoppedBy : Option UnitFailure := none

namespace Batch

/-- Where a run writes. -/
def outputDir (cfg : Config) (opts : BatchOptions) : Bytes :=
  if !opts.outputDir.isEmpty then opts.outputDir
  else if !cfg.outputDir.isEmpty then cfg.resolve cfg.outputDir
  else if !cfg.root.isEmpty then cfg.root
  else [Path.dot]

/-- The file a stage of a unit is written to. -/
def outputPath (dir shader permutation : Bytes) (stage : Stage) : Bytes :=
  Path.join dir (shader ++ [Path.dot] ++ permutation ++ stage.ext)

/-- The units of a configuration: each shader with each permutation it is built in. -/
def units (cfg : Config) : List (ShaderEntry × Permutation) :=
  cfg.shaders.flatMap fun s => (cfg.permutationsFor s).map (s, ·)

/-- Every file a run can write into `dir`: for each unit and each of its two stages, the stage's
expanded text and, beside it, the stage's binary. -/
def outputFiles (cfg : Config) (dir : Bytes) : List Bytes :=
  (units cfg).flatMap fun u =>
    [Stage.vertex, Stage.fragment].flatMap fun st =>
      [outputPath dir u.1.name u.2.name st, outputPath dir u.1.name u.2.name st ++ Bytes.ofString ".spv"]

/-- The permutation's flags that neither stage of the pair names. -/
def unusedFlags (perm : Permutation) (pair : Pair) : List Bytes :=
  let used := pair.vertex.expansion.flags ++ pair.fragment.expansion.flags
  perm.flags.names.filter fun n => !used.contains n

/-- Write a unit's stages, and its program's non-empty binaries, into `dir`: the files written
and the disk after, or the files written before a fault. -/
def write (disk : Disk) (dir : Bytes) (shader : ShaderEntry) (perm : Permutation) (pair : Pair)
    (prog : Option Program) : List Bytes × Except UnitFailure Disk :=
  match disk.mkdirAll dir with
  | .error e => ([], .error (.creating e))
  | .ok disk =>
    let step (acc : List Bytes × Except UnitFailure Disk) (src : StageSource) :=
      match acc with
      | (outs, .error e) => (outs, .error e)
      | (outs, .ok disk) =>
        let path := outputPath dir shader.name perm.name src.stage
        match disk.writeFile path src.expansion.text with
        | .error e => (outs, .error (.writing e))
        | .ok disk =>
          let outs := outs ++ [path]
          let bin := match prog with
            | some p => if src.stage == .fragment then p.fragment else p.vertex
            | none => []
          if bin.isEmpty then (outs, .ok disk)
          else
            let spv := path ++ Bytes.ofString ".spv"
            match disk.writeFile spv bin with
            | .error e => (outs, .error (.writing e))
            | .ok disk => (outs ++ [spv], .ok disk)
    [pair.vertex, pair.fragment].foldl step ([], .ok disk)

/-- Build one unit. -/
def buildUnit (cfg : Config) (opts : BatchOptions) (dir : Bytes) (disk : Disk)
    (unit : ShaderEntry × Permutation) : UnitResult × Disk :=
  let (shader, perm) := unit
  let base : UnitResult := { shader := shader.name, permutation := perm.name }
  let (flags, values) := perm.merge cfg.flags cfg.values
  let (flags, values) := ({ flags := opts.flags, values := opts.values } : Permutation).merge
    flags values
  let session : Session := { flags, values, loader := opts.loader }
  match Pair.load session (cfg.resolve shader.path) with
  | .error e => ({ base with failure := some (.load e) }, disk)
  | .ok pair =>
    let res := { base with pair := some pair, unusedFlags := unusedFlags perm pair }
    let built : Except BuildFailure (Option Program) := match opts.compiler with
      | some c => (pair.build c).map some
      | none => .ok none
    match built with
    | .error e => ({ res with failure := some (.build e) }, disk)
    | .ok prog =>
      let res := { res with program := prog }
      if opts.dryRun then (res, disk)
      else
        match write disk dir shader perm pair prog with
        | (outs, .ok disk) => ({ res with outputs := outs }, disk)
        | (outs, .error e) => ({ res with outputs := outs, failure := some e }, disk)

/-- What a unit reports when it stops before it starts: its names and the context's error. -/
def canceledResult (unit : ShaderEntry × Permutation) : UnitResult :=
  { shader := unit.1.name, permutation := unit.2.name, failure := some (.build .canceled) }

/-- Build one unit under the run's context: once the context is canceled the unit stops before
it starts, and writes nothing. -/
def buildUnitIn (canceled : Bool) (cfg : Config) (opts : BatchOptions) (dir : Bytes) (disk : Disk)
    (unit : ShaderEntry × Permutation) : UnitResult × Disk :=
  if canceled then (canceledResult unit, disk) else buildUnit cfg opts dir disk unit

/-- A run between two units: the results so far, the directory as written so far, and the
failure that canceled the context, once a fail-fast run has met one. -/
structure Progress where
  results : List UnitResult := []
  disk : Disk
  stoppedBy : Option UnitFailure := none

/-- The next unit of a run, built under the context as the run has left it. -/
def Progress.next (cfg : Config) (opts : BatchOptions) (dir : Bytes) (p : Progress)
    (unit : ShaderEntry × Permutation) : Progress :=
  let built := buildUnitIn p.stoppedBy.isSome cfg opts dir p.disk unit
  { results := p.results ++ [built.1], disk := built.2,
    stoppedBy := p.stoppedBy.or (if opts.failFast then built.1.failure else none) }

end Batch

/-- Run a batch over a configuration, one unit at a time in the configuration's order, writing
into `disk` unless the run is dry. -/
def Batch.run (cfg : Config) (opts : BatchOptions) (disk : Disk) : BatchReport :=
  let dir := Batch.outputDir cfg opts
  let p := (Batch.units cfg).foldl (Batch.Progress.next cfg opts dir) { disk }
  { results := p.results, outputDir := dir, disk := p.disk, stoppedBy := p.stoppedBy }

namespace BatchReport

/-- How many units failed. -/
def failed (r : BatchReport) : Nat := (r.results.filter (·.failure.isSome)).length

/-- The run's failure message: the failure that stopped a fail-fast run, else, when some unit
failed, how many of the units did. -/
def failure? (r : BatchReport) : Option Bytes :=
  match r.stoppedBy with
  | some e => some e.message
  | none =>
    if r.failed == 0 then none
    else some (Bytes.ofString "shader build failed: " ++ Bytes.ofNat r.failed ++
      Bytes.ofString " of " ++ Bytes.ofNat r.results.length ++ Bytes.ofString " units")

/-- Every stage's output path, unit by unit. -/
def outputPaths (r : BatchReport) : List Bytes :=
  r.results.flatMap fun u =>
    [Batch.outputPath r.outputDir u.shader u.permutation .vertex,
     Batch.outputPath r.outputDir u.shader u.permutation .fragment]

end BatchReport

end ShaderVariants
