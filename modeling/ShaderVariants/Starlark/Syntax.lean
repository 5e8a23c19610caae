import ShaderVariants.Starlark.Token
/-!
# The syntax of Starlark programs

A program is a list of statements; statements hold expressions. Places are kept where a
later check reports them: names, brackets, operators and the keyword that starts a statement.
An expression's own place (`Expr.start`) is that of its first token.
-/

namespace ShaderVariants.Starlark

/-- The binary operators, `and` and `or` included. -/
inductive BinOp where
  | add | sub | mul | div | floorDiv | mod
  | bitAnd | bitOr | bitXor | shiftLeft | shiftRight
  | eq | ne | lt | gt | le | ge | isIn | notIn
  | and | or
  deriving DecidableEq, Repr, Inhabited

/-- How an operator is spelled. -/
def BinOp.spelling : BinOp → String
  | add => "+" | sub => "-" | mul => "*" | div => "/" | floorDiv => "//" | mod => "%"
  | bitAnd => "&" | bitOr => "|" | bitXor => "^" | shiftLeft => "<<" | shiftRight => ">>"
  | eq => "==" | ne => "!=" | lt => "<" | gt => ">" | le => "<=" | ge => ">="
  | isIn => "in" | notIn => "not in" | and => "and" | or => "or"

/-- Whether the operator compares its operands. -/
def BinOp.isComparison : BinOp → Bool
  | eq | ne | lt | gt | le | ge => true
  | _ => false

/-- The unary operators. -/
inductive UnaryOp where
  | neg | plus | invert | not
  deriving DecidableEq, Repr, Inhabited

/-- How a unary operator is spelled. -/
def UnaryOp.spelling : UnaryOp → String
  | neg => "-" | plus => "+" | invert => "~" | not => "not"

mutual

/-- An expression. -/
inductive Expr where
  | name (id : Bytes) (pos : Pos)
  | int (n : Int) (pos : Pos)
  | float (x : Float) (pos : Pos)
  | string (s : Bytes) (pos : Pos)
  | bytes (s : Bytes) (pos : Pos)
  | list (items : List Expr) (pos : Pos)
  | dict (entries : List Entry) (pos : Pos)
  /-- A tuple; only the empty tuple `()` carries the place of its bracket. -/
  | tuple (items : List Expr) (pos : Option Pos)
  | paren (e : Expr) (pos : Pos)
  | listComp (body : Expr) (clauses : List Clause) (pos : Pos)
  | dictComp (key value : Expr) (clauses : List Clause) (pos : Pos)
  | unary (op : UnaryOp) (e : Expr) (pos : Pos)
  | binary (op : BinOp) (x y : Expr) (pos : Pos)
  /-- `yes if test else no`. -/
  | cond (yes test no : Expr)
  | lambda (params : List Param) (body : Expr) (pos : Pos)
  | call (fn : Expr) (args : List Arg) (pos : Pos)
  | index (x i : Expr)
  | slice (x : Expr) (lo hi step : Option Expr)
  | dot (x : Expr) (name : Bytes) (pos : Pos)
  deriving Inhabited

/-- A `key: value` entry of a dict display. -/
inductive Entry where
  | mk (key value : Expr)

/-- A clause of a comprehension. -/
inductive Clause where
  | forIn (vars iter : Expr) (pos : Pos)
  | guard (cond : Expr) (pos : Pos)

/-- An argument of a call. -/
inductive Arg where
  | positional (e : Expr)
  | named (name : Bytes) (pos : Pos) (e : Expr)
  | star (e : Expr) (pos : Pos)
  | starStar (e : Expr) (pos : Pos)

/-- A parameter of a function. -/
inductive Param where
  | plain (name : Bytes) (pos : Pos)
  /-- `name = default`, with the place of `=`. -/
  | withDefault (name : Bytes) (pos : Pos) (eqPos : Pos) (default : Expr)
  /-- `*` or `*name`, with the place of `*`. -/
  | star (name : Option (Bytes × Pos)) (pos : Pos)
  /-- `**name`, with the place of `**`. -/
  | starStar (name : Bytes) (namePos : Pos) (pos : Pos)

end

/-- What `break`, `continue` and `pass` do. -/
inductive Jump where
  | breakLoop
  | continueLoop
  | pass
  deriving DecidableEq, Repr, Inhabited

/-- How a jump is spelled. -/
def Jump.spelling : Jump → String
  | breakLoop => "break" | continueLoop => "continue" | pass => "pass"

/-- A name that a `load` statement binds: the name here, the name in the loaded module, and
the place of each. -/
structure LoadBinding where
  name : Bytes
  pos : Pos
  exported : Bytes
  exportedPos : Pos
  deriving Inhabited, Repr

/-- A statement. -/
inductive Stmt where
  | expr (e : Expr)
  /-- `lhs = rhs`, or `lhs op= rhs`, with the place of the operator. -/
  | assign (op : Option BinOp) (lhs rhs : Expr) (pos : Pos)
  | define (name : Bytes) (namePos : Pos) (params : List Param) (body : List Stmt) (pos : Pos)
  | ifElse (cond : Expr) (yes no : List Stmt) (pos : Pos)
  | forLoop (vars iter : Expr) (body : List Stmt) (pos : Pos)
  | whileLoop (cond : Expr) (body : List Stmt) (pos : Pos)
  | ret (value : Option Expr) (pos : Pos)
  | jump (kind : Jump) (pos : Pos)
  /-- `load(module, ...)`, with the names it binds. -/
  | load (module : Bytes) (names : List LoadBinding) (pos : Pos)
  deriving Inhabited

/-- The place of an expression's first token. -/
def Expr.start : Expr → Pos
  | .name _ p | .int _ p | .float _ p | .string _ p | .bytes _ p | .list _ p | .dict _ p
  | .paren _ p | .listComp _ _ p | .dictComp _ _ _ p | .unary _ _ p | .lambda _ _ p => p
  | .tuple items p =>
    match p, items with
    | some p, _ => p
    | none, x :: _ => x.start
    | none, [] => {}
  | .binary _ x _ _ | .cond x _ _ | .call x _ _ | .index x _ | .slice x _ _ _ | .dot x _ _ =>
    x.start

/-- How messages name the kind of an expression that cannot be assigned to. -/
def Expr.kindName : Expr → String
  | .name .. => "ident"
  | .int .. | .float .. | .string .. | .bytes .. => "literal"
  | .list .. => "listexpr"
  | .dict .. => "dictexpr"
  | .tuple .. => "tupleexpr"
  | .paren .. => "parenexpr"
  | .listComp .. | .dictComp .. => "comprehension"
  | .unary .. => "unaryexpr"
  | .binary .. => "binaryexpr"
  | .cond .. => "condexpr"
  | .lambda .. => "lambdaexpr"
  | .call .. => "callexpr"
  | .index .. => "indexexpr"
  | .slice .. => "sliceexpr"
  | .dot .. => "dotexpr"

end ShaderVariants.Starlark
