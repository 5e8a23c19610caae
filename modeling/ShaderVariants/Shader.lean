import ShaderVariants.Diagnostic
/-!
# Shader pairs

A shader is named by a path; its vertex stage is read from `path.vert` and its fragment stage
from `path.frag`, and both are expanded in one session. A compiler turns the two expanded texts
into a program, or rejects them with a message, or stops because the build was canceled.

A rejection is reported as a `CompileError`, which keeps the raw and expanded texts and the
diagnostic of the message (`Diagnostic.ofStages`). Its message is one line; its report spells
out the failing line of each stage and where it came from.
-/

namespace ShaderVariants

/-- A programmable stage of a pair; other stage numbers can be named but have no files. -/
inductive Stage where
  | vertex
  | fragment
  | other (n : Int)
  deriving DecidableEq, Repr

namespace Stage

/-- The stage of a number: 0 is the vertex stage, 1 the fragment stage. -/
def ofInt (n : Int) : Stage :=
  if n = 0 then vertex else if n = 1 then fragment else other n

/-- The name of a stage. -/
def name : Stage → Bytes
  | vertex => Bytes.ofString "vertex"
  | fragment => Bytes.ofString "fragment"
  | other n => Bytes.ofString "Stage(" ++ Bytes.ofInt n ++ Bytes.ofString ")"

/-- The file extension of a stage: `.frag` for the fragment stage, `.vert` for all others. -/
def ext : Stage → Bytes
  | fragment => Bytes.ofString ".frag"
  | _ => Bytes.ofString ".vert"

end Stage

/-- One stage of a pair: its file, the raw text and its expansion. -/
structure StageSource where
  stage : Stage
  file : Bytes
  raw : Bytes
  expansion : Expansion
  deriving DecidableEq, Repr

/-- The stage as a diagnostic sees it. -/
def StageSource.toStageText (s : StageSource) : StageText := ⟨s.file, s.raw, s.expansion⟩

/-- A loaded, expanded vertex and fragment pair. -/
structure Pair where
  path : Bytes
  vertex : StageSource
  fragment : StageSource
  deriving DecidableEq, Repr

/-- Why a pair could not be loaded: a stage's file could not be read, or did not expand. -/
inductive PairFailure where
  | unreadable (stage : Stage) (path : Bytes) (cause : LoadFailure)
  | problem (stage : Stage) (p : Problem)
  deriving DecidableEq, Repr

namespace PairFailure

/-- The message of a pair failure. -/
def message : PairFailure → Bytes
  | unreadable s p c =>
    Bytes.ofString "loading " ++ s.name ++ Bytes.ofString " shader: " ++
      (ExpandFailure.unreadable p c).message
  | problem s p => Bytes.ofString "precompiling " ++ s.name ++ Bytes.ofString " shader: " ++ p.message

end PairFailure

namespace Pair

/-- Reads and expands one stage of the shader `path`. -/
def loadStage (s : Session) (path : Bytes) (stage : Stage) : Except PairFailure StageSource :=
  let file := path ++ stage.ext
  match s.loader file with
  | .error c => .error (.unreadable stage file c)
  | .ok raw =>
    match s.expand raw file with
    | .error p => .error (.problem stage p)
    | .ok e => .ok ⟨stage, file, raw, e⟩

/-- Reads and expands the vertex stage, then the fragment stage, of the shader `path`. -/
def load (s : Session) (path : Bytes) : Except PairFailure Pair :=
  match loadStage s path .vertex with
  | .error e => .error e
  | .ok v =>
    match loadStage s path .fragment with
    | .error e => .error e
    | .ok f => .ok ⟨path, v, f⟩

end Pair

/-- A compiled program: its path and the vertex and fragment binaries. -/
structure Program where
  path : Bytes := []
  vertex : Bytes := []
  fragment : Bytes := []
  deriving DecidableEq, Repr

/-- Why a compiler gave no program: a rejection with its message, or a canceled build. -/
inductive CompilerFault where
  | rejected (message : Bytes)
  | canceled
  deriving DecidableEq, Repr

/-- A compiler: from the expanded vertex and fragment texts to a program (possibly none). -/
abbrev Compiler := Bytes → Bytes → Except CompilerFault (Option Program)

/-- A compiler's rejection of a pair, with the texts and what the message tells. -/
structure CompileError where
  path : Bytes
  rawVertex : Bytes
  rawFragment : Bytes
  expandedVertex : Bytes
  expandedFragment : Bytes
  diagnostic : Diagnostic
  cause : Bytes
  deriving DecidableEq, Repr

namespace CompileError

/-- The one-line message: the shader, the compiler's message, and the failing line of both
stages when the message names one. -/
def message (e : CompileError) : Bytes :=
  let d := e.diagnostic
  Bytes.ofString "compiling shader " ++ e.path ++ Bytes.ofString ": " ++ e.cause ++
    if d.hasLine then
      Bytes.ofString " (line " ++ Bytes.ofNat d.line ++ Bytes.ofString ": vertex " ++
        d.vertexLine.quote ++ Bytes.ofString ", fragment " ++ d.fragmentLine.quote ++
        Bytes.ofString ")"
    else []

/-- The report lines of one stage: its failing line, and where that line came from. -/
def stageReport (line : Nat) (stage : Stage) (text : Bytes) (origin : Place) (raw : Bytes) : Bytes :=
  Bytes.ofString "  " ++ stage.name ++ Bytes.ofString " line " ++ Bytes.ofNat line ++
    Bytes.ofString ": " ++ text ++ Bytes.ofString "\n" ++
    if origin.file.isEmpty then []
    else
      Bytes.ofString "    from " ++ origin.file ++ Bytes.ofString ":" ++ Bytes.ofInt origin.line ++
        (if raw.isEmpty then [] else Bytes.ofString ": " ++ raw) ++ Bytes.ofString "\n"

/-- The report of a rejection, for a terminal. -/
def report (e : CompileError) : Bytes :=
  let d := e.diagnostic
  Bytes.ofString "shader " ++ e.path ++ Bytes.ofString " failed to compile: " ++ e.cause ++
    Bytes.ofString "\n" ++
    if !d.hasLine then Bytes.ofString "  no line information available\n"
    else
      Bytes.ofString "  error type: " ++ d.type ++ Bytes.ofString "\n" ++
        stageReport d.line .vertex d.vertexLine d.vertexOrigin d.rawVertexLine ++
        stageReport d.line .fragment d.fragmentLine d.fragmentOrigin d.rawFragmentLine

end CompileError

/-- Why building a pair gave no program. -/
inductive BuildFailure where
  | canceled
  | compile (e : CompileError)
  deriving DecidableEq, Repr

/-- The message of a build failure. -/
def BuildFailure.message : BuildFailure → Bytes
  | canceled => Bytes.ofString "context canceled"
  | compile e => e.message

namespace Pair

/-- Builds a pair: the compiler's program, with the pair's path when it names none (an absent
program is an empty one); a rejection becomes a `CompileError`. -/
def build (c : Compiler) (p : Pair) : Except BuildFailure Program :=
  let v := p.vertex.expansion.text
  let f := p.fragment.expansion.text
  match c v f with
  | .error .canceled => .error .canceled
  | .error (.rejected msg) =>
    .error (.compile ⟨p.path, p.vertex.raw, p.fragment.raw, v, f,
      Diagnostic.ofStages msg p.vertex.toStageText p.fragment.toStageText, msg⟩)
  | .ok prog =>
    let prog := prog.getD {}
    .ok (if prog.path.isEmpty then { prog with path := p.path } else prog)

end Pair

/-- A compiler failure at one stage and phase, possibly at a line (0 for none). -/
structure StageFault where
  stage : Stage
  phase : Bytes
  line : Int
  cause : Bytes
  deriving DecidableEq, Repr

/-- The message of a stage fault, in the shape compiler messages have: line feeds of the cause
become spaces, and the line is left out when it is 0. -/
def StageFault.message (e : StageFault) : Bytes :=
  let cause := e.cause.map fun b => if b == Bytes.lf then 32 else b
  Bytes.ofString "Compilation failed: " ++ e.stage.name ++ Bytes.ofString "/" ++ e.phase ++
    Bytes.ofString ": " ++
    (if e.line == 0 then [] else Bytes.ofInt e.line ++ Bytes.ofString ": ") ++ cause

end ShaderVariants
