import ShaderVariants.Token
/-!
# Documents

A parsed source is a document: a list of nodes, each a run of text, an include, or a
conditional region. A text run is made of segments, literal text or value references, each
remembering where it stood. A region is a list of branches, each guarded by a flag (possibly
negated) or, for the `#else` branch, by nothing; every guard is resolved when the document is
built, so a branch knows whether its condition holds and the region knows the first branch
whose condition holds, if any.
-/

namespace ShaderVariants

/-- A piece of a text run: literal text, or a reference to a named value. -/
inductive Segment where
  | literal (text : Bytes) (place : Place)
  | reference (name : Bytes) (place : Place)
  deriving DecidableEq, Repr

/-- The condition of a branch: a flag, and whether its value is negated. -/
structure Guard where
  flag : Bytes
  negated : Bool
  deriving DecidableEq, Repr

mutual
/-- A node of a document. -/
inductive Node where
  /-- A run of text, one or more segments. -/
  | text (segments : List Segment)
  /-- An include of `path`, written in the file `place.file` at line `place.line`. -/
  | include (path : Bytes) (place : Place)
  /-- A conditional region opened at `place`, with its branches and the index of the first
  branch whose condition holds. -/
  | region (place : Place) (branches : List Branch) (selected : Option Nat)

/-- A branch of a region: its guard (none for `#else`), whether its condition holds, the line of
its directive, and its body. -/
structure Branch where
  guard : Option Guard
  cond : Bool
  line : Int
  body : List Node
end

/-- A parsed source file. -/
structure Document where
  file : Bytes
  nodes : List Node

namespace Segment

/-- Where a segment stood. -/
def place : Segment → Place
  | literal _ p => p
  | reference _ p => p

/-- The segment as it was written: literal text, or `#{name}`. -/
def raw : Segment → Bytes
  | literal t _ => t
  | reference n _ => Bytes.ofString "#\x7b" ++ n ++ Bytes.ofString "\x7d"

end Segment

namespace Branch

/-- The flag the branch tests, if any. -/
def flag? (b : Branch) : Option Bytes := b.guard.map Guard.flag

/-- Whether the branch is an `#else` branch. -/
def isElse (b : Branch) : Bool := b.guard.isNone

end Branch

end ShaderVariants
