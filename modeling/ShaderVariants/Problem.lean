import ShaderVariants.Token
import ShaderVariants.Source
import ShaderVariants.Text.Quoted
/-!
# Problems of the directive language

Every way a source can fail to parse or to expand is a constructor of `Problem`, carrying the
place it is reported at and what the message names. `Problem.kind` sorts problems into the seven
kinds callers tell apart, and `Problem.message` words them: the place comes first as
`file:line: `, unless the place is empty (no file and line 0).
-/

namespace ShaderVariants

/-- The kinds of problem. -/
inductive ProblemKind where
  | undefinedFlag
  | undefinedValue
  | imbalance
  | missingIncludePath
  | unexpectedToken
  | includeRead
  | includeDepth
  deriving DecidableEq, Repr

/-- A problem met while parsing or expanding a source. -/
inductive Problem where
  /-- An `#elseif`, `#else` or `#endif` with no open region. -/
  | unmatched (place : Place) (keyword : Bytes)
  /-- A region that the end of the source leaves open, reported at its `#if`. -/
  | unclosed (place : Place)
  /-- An `#elseif` after the region's `#else`. -/
  | elseIfAfterElse (place : Place)
  /-- A second `#else` in one region. -/
  | duplicateElse (place : Place)
  /-- An `#if` or `#elseif` with no flag name on its line. -/
  | missingFlag (place : Place) (keyword : Bytes)
  /-- A flag that the flags do not define. -/
  | undefinedFlag (place : Place) (flag : Bytes)
  /-- A value reference after a conditional directive on its line. -/
  | trailingReference (place : Place) (name : Bytes) (keyword : Bytes)
  /-- Other text after a conditional directive on its line. -/
  | trailingText (place : Place) (text : Bytes) (keyword : Bytes)
  /-- An `#include` with no path on its line. -/
  | missingPath (place : Place)
  /-- A value reference that the values do not define. -/
  | undefinedValue (place : Place) (name : Bytes)
  /-- An included file that could not be read. -/
  | unreadable (place : Place) (path : Bytes) (cause : LoadFailure)
  /-- An include nested deeper than the limit. -/
  | tooDeep (place : Place) (path : Bytes) (limit : Nat)
  deriving DecidableEq, Repr

namespace Problem

/-- The kind of a problem. -/
def kind : Problem → ProblemKind
  | unmatched .. | unclosed .. | elseIfAfterElse .. | duplicateElse .. => .imbalance
  | missingFlag .. | trailingReference .. | trailingText .. => .unexpectedToken
  | undefinedFlag .. => .undefinedFlag
  | missingPath .. => .missingIncludePath
  | undefinedValue .. => .undefinedValue
  | unreadable .. => .includeRead
  | tooDeep .. => .includeDepth

/-- Where a problem is reported. -/
def place : Problem → Place
  | unmatched p _ | unclosed p | elseIfAfterElse p | duplicateElse p | missingFlag p _
  | undefinedFlag p _ | trailingReference p _ _ | trailingText p _ _ | missingPath p
  | undefinedValue p _ | unreadable p _ _ | tooDeep p _ _ => p

/-- The flag or value a problem is about, or nothing. -/
def name : Problem → Bytes
  | undefinedFlag _ n | undefinedValue _ n => n
  | _ => []

private def lit (s : String) : Bytes := Bytes.ofString s

/-- What went wrong, without the place. -/
def detail : Problem → Bytes
  | unmatched _ k => k ++ lit " without matching #if"
  | unclosed _ => lit "#if without matching #endif"
  | elseIfAfterElse _ => lit "#elseif after #else"
  | duplicateElse _ => lit "duplicate #else"
  | missingFlag _ k => lit "a flag name must follow " ++ k
  | undefinedFlag _ f => lit "undefined flag " ++ f.quote
  | trailingReference _ n k => lit "unexpected #\x7b" ++ n ++ lit "\x7d after " ++ k
  | trailingText _ t k => lit "unexpected " ++ t.quote ++ lit " after " ++ k
  | missingPath _ => lit "a file path must follow the include statement"
  | undefinedValue _ n => lit "undefined value " ++ n.quote
  | unreadable _ p c => lit "reading include " ++ p.quote ++ lit ": " ++ c.message
  | tooDeep _ p n =>
    lit "including " ++ p.quote ++ lit " exceeds the maximum include depth of " ++ Bytes.ofNat n ++
      lit " (circular include?)"

/-- The message of a problem: `file:line: ` and the detail, or the detail alone when the place is
empty. -/
def message (e : Problem) : Bytes :=
  let p := e.place
  if p.file.isEmpty && p.line == 0 then e.detail
  else p.file ++ lit ":" ++ Bytes.ofInt p.line ++ lit ": " ++ e.detail

end Problem

end ShaderVariants
