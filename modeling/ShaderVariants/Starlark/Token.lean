import ShaderVariants.Text.Bytes
/-!
# Tokens of a Starlark program

A Starlark program is read in three steps: its characters are cut into tokens
(`Starlark/Token/Lexer`), the tokens are joined into statements (`Starlark/Syntax/Parser`), and
the statements are checked for names and placement (`Starlark/Scope`) before anything runs.
This module holds what passes between the first two steps: places in the text, the kinds of
token, and the fault that ends a step.

A place is a line and a column, both from one; columns count characters, not bytes. A token
records where it starts and where the lexer stood after reading it: messages about the token
the parser is looking at name the second place.
-/

namespace ShaderVariants.Starlark

/-- A place in the program text: line and column, both counted from one. -/
structure Pos where
  line : Nat := 1
  col : Nat := 1
  deriving Inhabited, Repr, DecidableEq

/-- What a token is, with what it carries. -/
inductive TokenKind where
  | eof
  | newline
  | indent
  | outdent
  /-- A word that is reserved but has no meaning. -/
  | illegal
  | ident (name : Bytes)
  | int (n : Int)
  | float (x : Float)
  | string (s : Bytes)
  | bytes (s : Bytes)
  /-- An operator or a bracket, by its spelling. -/
  | punct (text : String)
  /-- A keyword, by its spelling; `not in` is one. -/
  | keyword (text : String)
  deriving Inhabited, Repr

namespace TokenKind

/-- Whether the token is the operator or bracket `t`. -/
def isPunct (k : TokenKind) (t : String) : Bool :=
  match k with
  | punct p => p == t
  | _ => false

/-- Whether the token is the keyword `t`. -/
def isKeyword (k : TokenKind) (t : String) : Bool :=
  match k with
  | keyword p => p == t
  | _ => false

/-- Whether the token ends the input. -/
def isEof : TokenKind → Bool
  | eof => true
  | _ => false

/-- Whether the token ends a line. -/
def isNewline : TokenKind → Bool
  | newline => true
  | _ => false

/-- How messages name a token: operators and brackets in single quotes, keywords as written,
anything else by its class. -/
def describe : TokenKind → Bytes
  | eof => Bytes.ofString "end of file"
  | newline => Bytes.ofString "newline"
  | indent => Bytes.ofString "indent"
  | outdent => Bytes.ofString "outdent"
  | illegal => Bytes.ofString "illegal token"
  | ident _ => Bytes.ofString "identifier"
  | int _ => Bytes.ofString "int literal"
  | float _ => Bytes.ofString "float literal"
  | string _ => Bytes.ofString "string literal"
  | bytes _ => Bytes.ofString "bytes literal"
  | punct t => Bytes.ofString ("'" ++ t ++ "'")
  | keyword t => Bytes.ofString t

end TokenKind

/-- A token, where it starts and where the lexer stood after it. -/
structure Token where
  kind : TokenKind
  start : Pos
  stop : Pos
  deriving Inhabited, Repr

/-- Why a program was refused before it ran: the place and the problem. -/
structure SyntaxError where
  pos : Pos
  message : Bytes
  deriving Inhabited, Repr

/-- The text of a refusal, with the file name in front: `FILE:LINE:COL: PROBLEM`. -/
def SyntaxError.render (file : Bytes) (e : SyntaxError) : Bytes :=
  file ++ [58] ++ Bytes.ofNat e.pos.line ++ [58] ++ Bytes.ofNat e.pos.col ++
    Bytes.ofString ": " ++ e.message

/-- The text of a place, with the file name in front: `FILE:LINE:COL`. -/
def Pos.render (file : Bytes) (p : Pos) : Bytes :=
  file ++ [58] ++ Bytes.ofNat p.line ++ [58] ++ Bytes.ofNat p.col

end ShaderVariants.Starlark
