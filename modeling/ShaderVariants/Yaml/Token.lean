import ShaderVariants.Text.Bytes
/-!
# Tokens of a YAML stream

A YAML stream is read in two steps: its characters are cut into tokens (`Yaml/Token/Lexer`),
and the tokens are joined into a tree of nodes (`Yaml/Node`). This module holds what passes
between the two: places in the text, the kinds of token, and the fault that ends either step.

A fault names a line only when it has one to name. The lexer counts lines from one and prefers
the line where the construct it was reading began; the tree builder reports the line of its
marks as they are, counted from zero, again preferring the line of the enclosing construct.
-/

namespace ShaderVariants.Yaml

/-- A place in the stream: characters read before it, its line and its column, from zero. -/
structure Mark where
  index : Nat := 0
  line : Nat := 0
  column : Nat := 0
  deriving Inhabited, Repr

/-- How a scalar was written. -/
inductive ScalarStyle where
  | plain
  | singleQuoted
  | doubleQuoted
  | literal
  | folded
  deriving DecidableEq, Repr, Inhabited

/-- What a token is, with what it carries. -/
inductive TokenKind where
  | streamStart
  | streamEnd
  | versionDirective (major minor : Nat)
  | tagDirective (handle pfx : Bytes)
  | documentStart
  | documentEnd
  | blockSequenceStart
  | blockMappingStart
  | blockEnd
  | flowSequenceStart
  | flowSequenceEnd
  | flowMappingStart
  | flowMappingEnd
  | blockEntry
  | flowEntry
  | key
  | value
  | alias (name : Bytes)
  | anchor (name : Bytes)
  | tag (handle suffix : Bytes)
  | scalar (text : Bytes) (style : ScalarStyle)
  deriving Inhabited, Repr

/-- A token and the stretch of text it covers. -/
structure Token where
  kind : TokenKind
  start : Mark
  stop : Mark
  deriving Inhabited, Repr

/-- Why a stream could not be read: the line the message names (none when zero) and the
problem. -/
structure Fault where
  line : Nat
  problem : Bytes
  deriving Inhabited, Repr

namespace Fault

/-- A fault met while cutting tokens: lines count from one, and the line of the construct
being read (`context`) wins over the line of the problem (`here`). -/
def scanning (context here : Mark) (problem : String) : Fault :=
  { line := if context.line ≠ 0 then context.line + 1
      else if here.line ≠ 0 then here.line + 1 else 0,
    problem := Bytes.ofString problem }

/-- A fault met while joining tokens into nodes: lines are the marks' own, from zero, and the
line of the enclosing construct wins over the line of the token that does not fit. -/
def parsing (context here : Mark) (problem : String) : Fault :=
  { line := if context.line ≠ 0 then context.line else here.line,
    problem := Bytes.ofString problem }

/-- A fault with no place. -/
def general (problem : Bytes) : Fault := ⟨0, problem⟩

/-- The text of a fault. -/
def message (f : Fault) : Bytes :=
  Bytes.ofString "yaml: " ++
    (if f.line ≠ 0 then Bytes.ofString "line " ++ Bytes.ofNat f.line ++ Bytes.ofString ": "
     else []) ++ f.problem

end Fault

end ShaderVariants.Yaml
