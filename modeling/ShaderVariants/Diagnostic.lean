import ShaderVariants.Expansion
/-!
# Compiler diagnostics

A shader compiler reports a failure as a message that may contain
`Compilation failed: TYPE: LINE:`, where TYPE is a run of characters other than `:` and line
feeds and LINE is a run of ASCII digits. `CompileMessage.parse?` finds the first such spot; the
type is trimmed of blanks, and a line number above the largest 64-bit signed integer is no line.

A diagnostic takes the line the message names to the expanded vertex and fragment texts, and,
through each stage's source map, to the file and line that produced it, with the raw text of
that line when it came from the stage's own file.
-/

namespace ShaderVariants

/-- The type label and line number a compiler message names. -/
structure CompileMessage where
  type : Bytes
  line : Nat
  deriving DecidableEq, Repr

namespace CompileMessage

/-- The marker that starts the located part of a compiler message. -/
def marker : Bytes := Bytes.ofString "Compilation failed: "

/-- The largest line number a message can name. -/
def maxLine : Nat := Nat.pow 2 63 - 1

/-- Whether a byte is an ASCII digit. -/
def isDigit (b : UInt8) : Bool := 48 ≤ b && b ≤ 57

/-- The value of a run of ASCII digits. -/
def digitsValue (ds : Bytes) : Nat := ds.foldl (fun n d => n * 10 + (d - 48).toNat) 0

/-- Reads `TYPE: LINE:` right after a marker. -/
def located (s : Bytes) : Option CompileMessage :=
  let type := s.takeWhile fun b => b != 58 && b != Bytes.lf
  match s.drop type.length with
  | 58 :: 32 :: r =>
    let ds := r.takeWhile isDigit
    match r.drop ds.length with
    | 58 :: _ =>
      if type.isEmpty || ds.isEmpty then none
      else some ⟨Bytes.trimBlank type, digitsValue ds⟩
    | _ => none
  | _ => none

/-- The first marker of the message that `TYPE: LINE:` follows, read. -/
def find? (msg : Bytes) : Option CompileMessage :=
  match msg with
  | [] => none
  | b :: r =>
    match Bytes.dropPrefix? marker (b :: r) with
    | some after =>
      match located after with
      | some m => some m
      | none => find? r
    | none => find? r

/-- The type and line a compiler message names, if it names a line within range. -/
def parse? (msg : Bytes) : Option CompileMessage :=
  match find? msg with
  | some m => if m.line ≤ maxLine then some m else none
  | none => none

end CompileMessage

/-- Line `n` (from 1) of a text whose CR LF pairs count as line feeds; empty when there is no
such line. A text that ends in a line feed has one more, empty, line. -/
def sourceLine (src : Bytes) (n : Nat) : Bytes :=
  if n < 1 then [] else ((Bytes.splitOn Bytes.lf (Bytes.normalizeLineEnds src))[n - 1]?).getD []

/-- The empty place: no file, line 0. -/
def Place.none : Place := ⟨[], 0⟩

/-- What a compiler message tells about the two stages of a pair. -/
structure Diagnostic where
  hasLine : Bool := false
  line : Nat := 0
  type : Bytes := []
  vertexLine : Bytes := []
  fragmentLine : Bytes := []
  vertexOrigin : Place := Place.none
  fragmentOrigin : Place := Place.none
  rawVertexLine : Bytes := []
  rawFragmentLine : Bytes := []
  deriving DecidableEq, Repr

/-- One expanded stage as a diagnostic sees it: the file, its raw text and its expansion. -/
structure StageText where
  file : Bytes
  raw : Bytes
  expansion : Expansion

namespace StageText

/-- Where output line `n` came from and, when it came from this stage's own file, the raw text
of that line. -/
def origin (u : StageText) (n : Nat) : Place × Bytes :=
  match u.expansion.origin? n with
  | none => (Place.none, [])
  | some o => if o.file == u.file then (o, sourceLine u.raw o.line.toNat) else (o, [])

end StageText

namespace Diagnostic

/-- The line a compiler message names, looked up in the two expanded texts. -/
def ofMessage (msg vertex fragment : Bytes) : Diagnostic :=
  match CompileMessage.parse? msg with
  | none => {}
  | some m =>
    { hasLine := true, line := m.line, type := m.type,
      vertexLine := sourceLine vertex m.line, fragmentLine := sourceLine fragment m.line }

/-- The diagnostic of a message, traced through both stages' source maps. -/
def ofStages (msg : Bytes) (vertex fragment : StageText) : Diagnostic :=
  let d := ofMessage msg vertex.expansion.text fragment.expansion.text
  if !d.hasLine then d
  else
    let (vo, vr) := vertex.origin d.line
    let (fo, fr) := fragment.origin d.line
    { d with vertexOrigin := vo, rawVertexLine := vr, fragmentOrigin := fo, rawFragmentLine := fr }

end Diagnostic

end ShaderVariants
