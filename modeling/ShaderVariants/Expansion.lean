import ShaderVariants.Document.Parser
import ShaderVariants.Document.Outline
/-!
# Expanding a document

A document is expanded by writing its live nodes in order: text runs segment by segment, each
value reference replaced by its value, verbatim; in a region only the selected branch; and in
place of an include the expansion of the file it names, read through the loader, parsed with the
same flags and expanded with the same values. Includes nest at most as deep as the session's
limit (64 unless the session sets a positive one), which stops include cycles.

What is written is a list of pieces, each a text with the place it came from. The expansion's
text is their concatenation; the origin of an output line is the place of the piece that wrote
the line's first byte (`Expansion.lineOrigins`), so there is one origin per line, a last line
without a line feed included. The expansion also lists, sorted and each once, every flag named
by a condition of the expanded file or of a file it included.
-/

namespace ShaderVariants

/-- A piece of output and the place it was written from. -/
structure Piece where
  text : Bytes
  place : Place
  deriving DecidableEq, Repr

/-- Expanded text with its source map. -/
structure Expansion where
  text : Bytes
  /-- One place per output line: where its first byte was written from. -/
  origins : List Place
  /-- The flags named by the conditions of the files that took part, sorted, each once. -/
  flags : List Bytes
  deriving DecidableEq, Repr

namespace Expansion

/-- The origins of the lines of a stream of placed bytes, `cur` being the origin of the line
under way, if one is. -/
def originsFrom (cur : Option Place) : List (UInt8 × Place) → List Place
  | [] => cur.toList
  | (b, p) :: r =>
    let o := cur.getD p
    if b == Bytes.lf then o :: originsFrom none r else originsFrom (some o) r

/-- The origin of every output line written by the pieces. -/
def lineOrigins (ps : List Piece) : List Place :=
  originsFrom none (ps.flatMap fun p => p.text.map fun b => (b, p.place))

/-- The expansion that the pieces make, with the flags named. -/
def ofPieces (ps : List Piece) (flags : List Bytes) : Expansion :=
  ⟨ps.flatMap Piece.text, lineOrigins ps, Bytes.sortDedup flags⟩

/-- The origin of the 1-based output line `n`. -/
def origin? (e : Expansion) (n : Int) : Option Place :=
  if n < 1 then none else e.origins[(n - 1).toNat]?

end Expansion

/-- What an expansion needs besides the source: flags, values, where included files come from,
and the include depth limit (64 when not positive). -/
structure Session where
  flags : Flags
  values : Values
  loader : Loader
  maxDepth : Int := 0

/-- The include depth limit when none is set. -/
def defaultIncludeDepth : Nat := 64

/-- Why a file could not be expanded: it could not be read, or its expansion met a problem. -/
inductive ExpandFailure where
  | unreadable (path : Bytes) (cause : LoadFailure)
  | problem (p : Problem)
  deriving DecidableEq, Repr

namespace ExpandFailure

/-- The message of a failure. -/
def message : ExpandFailure → Bytes
  | unreadable p c => Bytes.ofString "reading " ++ p ++ Bytes.ofString ": " ++ c.message
  | problem p => p.message

end ExpandFailure

namespace Session

/-- The include depth limit in force. -/
def limit (s : Session) : Nat := if s.maxDepth ≤ 0 then defaultIncludeDepth else s.maxDepth.toNat

/-- The pieces of one segment. -/
def segment (s : Session) : Segment → Except Problem Piece
  | .literal t p => .ok ⟨t, p⟩
  | .reference n p =>
    match s.values.get? n with
    | some v => .ok ⟨v, p⟩
    | none => .error (.undefinedValue p n)

/-- What rendering gives: the pieces written and the flags named by the included files. -/
abbrev Rendered := Except Problem (List Piece × List Bytes)

mutual
/-- Renders a node at include depth `depth`. -/
def renderNode (s : Session) (depth : Nat) : Node → Rendered
  | .text segs =>
    match segs.mapM s.segment with
    | .ok ps => .ok (ps, [])
    | .error e => .error e
  | .include path place =>
    if _h : depth < s.limit then
      let target := Path.resolve path place.file
      match s.loader target with
      | .error c => .error (.unreadable place target c)
      | .ok src =>
        match Document.ofSource s.flags target src with
        | .error e => .error e
        | .ok doc =>
          match renderNodes s (depth + 1) doc.nodes with
          | .ok (ps, fs) => .ok (ps, Node.flagsNamedAll doc.nodes ++ fs)
          | .error e => .error e
    else .error (.tooDeep place path s.limit)
  | .region _ bs sel => renderBranches s depth 0 sel bs
termination_by n => (s.limit - depth, sizeOf n)
decreasing_by
  · exact Prod.Lex.left _ _ (by omega)
  · exact Prod.Lex.right _ (by simp; omega)

/-- Renders the selected branch among `bs`, the first of which has index `i`. -/
def renderBranches (s : Session) (depth : Nat) (i : Nat) (sel : Option Nat) :
    List Branch → Rendered
  | [] => .ok ([], [])
  | ⟨g, c, l, body⟩ :: bs =>
    if sel == some i then renderNodes s depth body else renderBranches s depth (i + 1) sel bs
termination_by bs => (s.limit - depth, sizeOf bs)

/-- Renders a list of nodes in order. -/
def renderNodes (s : Session) (depth : Nat) : List Node → Rendered
  | [] => .ok ([], [])
  | n :: ns =>
    match renderNode s depth n with
    | .error e => .error e
    | .ok (ps, fs) =>
      match renderNodes s depth ns with
      | .ok (ps', fs') => .ok (ps ++ ps', fs ++ fs')
      | .error e => .error e
termination_by ns => (s.limit - depth, sizeOf ns)
end

/-- The expansion of a parsed document. -/
def render (s : Session) (doc : Document) : Except Problem Expansion :=
  match renderNodes s 0 doc.nodes with
  | .ok (ps, fs) => .ok (Expansion.ofPieces ps (Node.flagsNamedAll doc.nodes ++ fs))
  | .error e => .error e

/-- Parses a source of `file` with the session's flags. -/
def parse (s : Session) (src file : Bytes) : Except Problem Document :=
  Document.ofSource s.flags file src

/-- Expands a source of `file`. -/
def expand (s : Session) (src file : Bytes) : Except Problem Expansion :=
  match s.parse src file with
  | .ok doc => s.render doc
  | .error e => .error e

/-- Reads a file through the loader, naming the path in a failure. -/
def read (s : Session) (path : Bytes) : Except ExpandFailure Bytes :=
  match s.loader path with
  | .ok src => .ok src
  | .error c => .error (.unreadable path c)

/-- Reads and expands a file. -/
def expandFile (s : Session) (path : Bytes) : Except ExpandFailure Expansion :=
  match s.read path with
  | .error e => .error e
  | .ok src =>
    match s.expand src path with
    | .ok e => .ok e
    | .error p => .error (.problem p)

end Session

end ShaderVariants
