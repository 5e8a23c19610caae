import ShaderVariants.Starlark.Syntax
import ShaderVariants.Starlark.Token.Lexer
/-!
# Reading statements from tokens

A recursive descent over the tokens with one token of look-ahead. Binary operators are read by
precedence climbing over ten levels, loosest first: `or`; `and`; `not`; the comparisons and
`in`, `not in`; `|`; `^`; `&`; `<<` and `>>`; `+` and `-`; `*`, `/`, `//` and `%`. Comparisons do
not chain (`a < b < c` is refused); the other operators group to the left. A unary `-`, `+` or
`~` binds tighter than any binary operator and covers a whole primary with its suffixes.

The first problem ends reading. A message about the token being looked at names the place
just after it; others name the place of the construct at fault. A fault of the lexer is met
when the parser first asks for the token it spoils.
-/

namespace ShaderVariants.Starlark

/-- The parser's state: the tokens, the index of the current one, and the lexer's fault after
the last token, if any. -/
structure Parser where
  tokens : Array Token
  index : Nat := 0
  fault : Option SyntaxError := none

/-- A step of the parser. -/
abbrev ParseM := StateT Parser (Except SyntaxError)

/-- The binary operator of a token and its precedence level. -/
def binOpOf? (k : TokenKind) : Option (BinOp × Nat) :=
  match k with
  | .keyword "or" => some (.or, 0)
  | .keyword "and" => some (.and, 1)
  | .punct "==" => some (.eq, 3)
  | .punct "!=" => some (.ne, 3)
  | .punct "<" => some (.lt, 3)
  | .punct ">" => some (.gt, 3)
  | .punct "<=" => some (.le, 3)
  | .punct ">=" => some (.ge, 3)
  | .keyword "in" => some (.isIn, 3)
  | .keyword "not in" => some (.notIn, 3)
  | .punct "|" => some (.bitOr, 4)
  | .punct "^" => some (.bitXor, 5)
  | .punct "&" => some (.bitAnd, 6)
  | .punct "<<" => some (.shiftLeft, 7)
  | .punct ">>" => some (.shiftRight, 7)
  | .punct "-" => some (.sub, 8)
  | .punct "+" => some (.add, 8)
  | .punct "*" => some (.mul, 9)
  | .punct "%" => some (.mod, 9)
  | .punct "/" => some (.div, 9)
  | .punct "//" => some (.floorDiv, 9)
  | _ => none

/-- The operator of an assignment token: `none` for plain `=`. -/
def assignOp? (k : TokenKind) : Option (Option BinOp) :=
  match k with
  | .punct "=" => some none
  | .punct "+=" => some (some .add)
  | .punct "-=" => some (some .sub)
  | .punct "*=" => some (some .mul)
  | .punct "/=" => some (some .div)
  | .punct "//=" => some (some .floorDiv)
  | .punct "%=" => some (some .mod)
  | .punct "&=" => some (some .bitAnd)
  | .punct "|=" => some (some .bitOr)
  | .punct "^=" => some (some .bitXor)
  | .punct "<<=" => some (some .shiftLeft)
  | .punct ">>=" => some (some .shiftRight)
  | _ => none

/-- Whether a token ends a list of expressions. -/
def endsExprList (k : TokenKind) : Bool :=
  match k with
  | .eof | .newline => true
  | .punct "=" | .punct "\x7d" | .punct "]" | .punct ")" | .punct ";" => true
  | _ => false

namespace ParseM

/-- The current token. -/
def current : ParseM Token := do
  let p ← get
  return p.tokens[p.index]?.getD ⟨.eof, {}, {}⟩

/-- The kind of the current token. -/
def kind : ParseM TokenKind := return (← current).kind

/-- The bound on every loop over tokens: each pass takes at least one. -/
def bound : ParseM Nat := do
  let p ← get
  return p.tokens.size - p.index + 2

/-- Move past the current token; the place where it started. At the end of the tokens read so
far, the lexer's fault is met. -/
def next : ParseM Pos := do
  let p ← get
  let t := p.tokens[p.index]?.getD ⟨.eof, {}, {}⟩
  if p.index + 1 < p.tokens.size then set { p with index := p.index + 1 }
  else if !t.kind.isEof then
    match p.fault with
    | some e => throw e
    | none => set { p with index := p.index + 1 }
  return t.start

/-- Refuse at a place. -/
def failAt {α : Type} (pos : Pos) (msg : Bytes) : ParseM α := throw { pos, message := msg }

/-- Refuse just after the current token. -/
def failHere {α : Type} (msg : Bytes) : ParseM α := do
  throw { pos := (← current).stop, message := msg }

/-- Refuse the current token for not being what was wanted. -/
def unexpected {α : Type} (want : Bytes) : ParseM α := do
  failHere (Bytes.ofString "got " ++ (← kind).describe ++ Bytes.ofString ", want " ++ want)

/-- Move past a token of the wanted kind; the place where it started. -/
def expect (want : TokenKind) (isIt : TokenKind → Bool) : ParseM Pos := do
  if !isIt (← kind) then unexpected want.describe
  next

/-- Move past an operator or bracket. -/
def expectPunct (t : String) : ParseM Pos := expect (.punct t) (·.isPunct t)

/-- Move past a keyword. -/
def expectKeyword (t : String) : ParseM Pos := expect (.keyword t) (·.isKeyword t)

/-- Replace the current token's kind. -/
def replaceKind (k : TokenKind) : ParseM Unit :=
  modify fun p => { p with tokens := p.tokens.modify p.index fun t => { t with kind := k } }

/-- A name, and its place. -/
def ident : ParseM (Bytes × Pos) := do
  let t ← current
  match t.kind with
  | .ident n =>
    discard next
    return (n, t.start)
  | _ => failHere (Bytes.ofString "not an identifier")

/-- The error of a parse nested deeper than its fuel. -/
def tooDeep {α : Type} : ParseM α := failHere (Bytes.ofString "expression nests too deeply")

mutual

/-- A single expression: a lambda, or an operator expression, possibly conditional. -/
def test : Nat → ParseM Expr
  | 0 => tooDeep
  | fuel + 1 => do
    if (← kind).isKeyword "lambda" then return ← lambda fuel true
    let x ← testPrec fuel 0
    if (← kind).isKeyword "if" then
      let ifPos ← next
      let c ← testPrec fuel 0
      if !(← kind).isKeyword "else" then
        failAt ifPos (Bytes.ofString "conditional expression without else clause")
      discard next
      let no ← test fuel
      return .cond x c no
    return x

/-- A single expression without a trailing conditional. -/
def testNoCond : Nat → ParseM Expr
  | 0 => tooDeep
  | fuel + 1 => do
    if (← kind).isKeyword "lambda" then lambda fuel false else testPrec fuel 0

/-- A lambda expression; `allowCond` lets its body be conditional. -/
def lambda : Nat → Bool → ParseM Expr
  | 0, _ => tooDeep
  | fuel + 1, allowCond => do
    let pos ← next
    let params ← if (← kind).isPunct ":" then pure [] else params fuel
    discard (expectPunct ":")
    let body ← if allowCond then test fuel else testNoCond fuel
    return .lambda params body pos

/-- An operator expression whose operators bind at least as tightly as level `prec`. -/
def testPrec : Nat → Nat → ParseM Expr
  | 0, _ => tooDeep
  | fuel + 1, prec => do
    if prec ≥ 10 then return ← primaryWithSuffix fuel
    if prec == 2 && (← kind).isKeyword "not" then
      let pos ← next
      let x ← testPrec fuel prec
      return .unary .not x pos
    binop fuel prec

/-- Operands joined by operators of level `prec` and tighter. -/
def binop : Nat → Nat → ParseM Expr
  | 0, _ => tooDeep
  | fuel + 1, prec => do
    let mut x ← testPrec fuel (prec + 1)
    let mut first := true
    for _ in [0:(← bound)] do
      if (← kind).isKeyword "not" then
        discard next
        if !(← kind).isKeyword "in" then unexpected (Bytes.ofString "in")
        replaceKind (.keyword "not in")
      match binOpOf? (← kind) with
      | none => return x
      | some (op, level) =>
        if level < prec then return x
        if !first && level == 3 then
          let before := match x with
            | .binary o _ _ _ => o.spelling
            | _ => ""
          failHere (Bytes.ofString (before ++ " does not associate with " ++ op.spelling ++
            " (use parens)"))
        let pos ← next
        let y ← testPrec fuel (level + 1)
        x := .binary op x y pos
        first := false
    return x

/-- A primary expression followed by attribute, index, slice and call suffixes. -/
def primaryWithSuffix : Nat → ParseM Expr
  | 0 => tooDeep
  | fuel + 1 => do
    let mut x ← primary fuel
    for _ in [0:(← bound)] do
      let k ← kind
      if k.isPunct "." then
        let pos ← next
        let (name, _) ← ident
        x := .dot x name pos
      else if k.isPunct "[" then x ← sliceSuffix fuel x
      else if k.isPunct "(" then x ← callSuffix fuel x
      else return x
    return x

/-- An index `[i]` or a slice `[lo:hi:step]` after `x`. -/
def sliceSuffix : Nat → Expr → ParseM Expr
  | 0, _ => tooDeep
  | fuel + 1, x => do
    discard next
    let mut lo : Option Expr := none
    if !(← kind).isPunct ":" then
      let y ← expr fuel false
      if (← kind).isPunct "]" then
        discard next
        return .index x y
      lo := some y
    let mut hi : Option Expr := none
    let mut step : Option Expr := none
    if (← kind).isPunct ":" then
      discard next
      let k ← kind
      if !k.isPunct ":" && !k.isPunct "]" then hi := some (← test fuel)
    if (← kind).isPunct ":" then
      discard next
      if !(← kind).isPunct "]" then step := some (← test fuel)
    discard (expectPunct "]")
    return .slice x lo hi step

/-- The arguments of a call of `fn`. -/
def callSuffix : Nat → Expr → ParseM Expr
  | 0, _ => tooDeep
  | fuel + 1, fn => do
    let lparen ← expectPunct "("
    if (← kind).isPunct ")" then
      discard next
      return .call fn [] lparen
    let args ← args fuel
    discard (expectPunct ")")
    return .call fn args lparen

/-- The arguments of a call, up to the closing bracket. -/
def args : Nat → ParseM (List Arg)
  | 0 => tooDeep
  | fuel + 1 => do
    let mut acc : Array Arg := #[]
    for _ in [0:(← bound)] do
      let k ← kind
      if k.isPunct ")" || k.isEof then break
      if acc.size > 0 then discard (expectPunct ",")
      let k ← kind
      if k.isPunct ")" then break
      if k.isPunct "*" || k.isPunct "**" then
        let pos ← next
        let x ← test fuel
        acc := acc.push (if k.isPunct "*" then .star x pos else .starStar x pos)
      else
        let x ← test fuel
        if (← kind).isPunct "=" then
          match x with
          | .name n p =>
            discard next
            let y ← test fuel
            acc := acc.push (.named n p y)
          | _ => failHere (Bytes.ofString "keyword argument must have form name=expr")
        else acc := acc.push (.positional x)
    return acc.toList

/-- A primary expression: a name, a literal, a bracketed form, or a unary operation. -/
def primary : Nat → ParseM Expr
  | 0 => tooDeep
  | fuel + 1 => do
    let t ← current
    match t.kind with
    | .ident n => discard next; return .name n t.start
    | .int n => discard next; return .int n t.start
    | .float x => discard next; return .float x t.start
    | .string s => discard next; return .string s t.start
    | .bytes s => discard next; return .bytes s t.start
    | .punct "[" => list fuel
    | .punct "\x7b" => dict fuel
    | .punct "(" =>
      let lparen ← next
      if (← kind).isPunct ")" then
        discard next
        return .tuple [] (some lparen)
      let e ← expr fuel true
      discard (expectPunct ")")
      return .paren e lparen
    | .punct "-" => let pos ← next; return .unary .neg (← primaryWithSuffix fuel) pos
    | .punct "+" => let pos ← next; return .unary .plus (← primaryWithSuffix fuel) pos
    | .punct "~" => let pos ← next; return .unary .invert (← primaryWithSuffix fuel) pos
    | _ => unexpected (Bytes.ofString "primary expression")

/-- A list display or a list comprehension. -/
def list : Nat → ParseM Expr
  | 0 => tooDeep
  | fuel + 1 => do
    let lbrack ← next
    if (← kind).isPunct "]" then
      discard next
      return .list [] lbrack
    let x ← test fuel
    if (← kind).isKeyword "for" then
      let cs ← clauses fuel "]"
      return .listComp x cs lbrack
    let mut items := [x]
    if (← kind).isPunct "," then items ← exprs fuel [x] true
    discard (expectPunct "]")
    return .list items lbrack

/-- A dict display or a dict comprehension. -/
def dict : Nat → ParseM Expr
  | 0 => tooDeep
  | fuel + 1 => do
    let lbrace ← next
    if (← kind).isPunct "\x7d" then
      discard next
      return .dict [] lbrace
    let (k, v) ← entry fuel
    if (← kind).isKeyword "for" then
      let cs ← clauses fuel "\x7d"
      return .dictComp k v cs lbrace
    let mut entries : Array Entry := #[.mk k v]
    for _ in [0:(← bound)] do
      if !(← kind).isPunct "," then break
      discard next
      if (← kind).isPunct "\x7d" then break
      let (k, v) ← entry fuel
      entries := entries.push (.mk k v)
    discard (expectPunct "\x7d")
    return .dict entries.toList lbrace

/-- A `key: value` entry. -/
def entry : Nat → ParseM (Expr × Expr)
  | 0 => tooDeep
  | fuel + 1 => do
    let k ← test fuel
    discard (expectPunct ":")
    let v ← test fuel
    return (k, v)

/-- The `for` and `if` clauses of a comprehension, and its closing bracket. -/
def clauses : Nat → String → ParseM (List Clause)
  | 0, _ => tooDeep
  | fuel + 1, close => do
    let mut acc : Array Clause := #[]
    for _ in [0:(← bound)] do
      let k ← kind
      if k.isPunct close then break
      if k.isKeyword "for" then
        let pos ← next
        let vars ← loopVariables fuel
        discard (expectKeyword "in")
        let x ← testPrec fuel 0
        acc := acc.push (.forIn vars x pos)
      else if k.isKeyword "if" then
        let pos ← next
        let c ← testNoCond fuel
        acc := acc.push (.guard c pos)
      else unexpected (Bytes.ofString ("'" ++ close ++ "', for, or if"))
    discard next
    return acc.toList

/-- The variables of a `for`: primaries separated by commas. -/
def loopVariables : Nat → ParseM Expr
  | 0 => tooDeep
  | fuel + 1 => do
    let v ← primaryWithSuffix fuel
    if !(← kind).isPunct "," then return v
    let mut acc := #[v]
    for _ in [0:(← bound)] do
      if !(← kind).isPunct "," then break
      discard next
      if endsExprList (← kind) then break
      acc := acc.push (← primaryWithSuffix fuel)
    return .tuple acc.toList none

/-- An expression, or several separated by commas as a tuple; `inParens` allows a trailing
comma. -/
def expr : Nat → Bool → ParseM Expr
  | 0, _ => tooDeep
  | fuel + 1, inParens => do
    let x ← test fuel
    if !(← kind).isPunct "," then return x
    let items ← exprs fuel [x] inParens
    return .tuple items none

/-- More expressions after `first`, each after a comma. -/
def exprs : Nat → List Expr → Bool → ParseM (List Expr)
  | 0, _, _ => tooDeep
  | fuel + 1, first, allowTrailing => do
    let mut acc := first.toArray
    for _ in [0:(← bound)] do
      if !(← kind).isPunct "," then break
      let pos ← next
      if endsExprList (← kind) then
        if !allowTrailing then
          failAt pos (Bytes.ofString "unparenthesized tuple with trailing comma")
        break
      acc := acc.push (← test fuel)
    return acc.toList

/-- The parameters of a function, up to `)` or `:`. -/
def params : Nat → ParseM (List Param)
  | 0 => tooDeep
  | fuel + 1 => do
    let mut acc : Array Param := #[]
    for _ in [0:(← bound)] do
      let k ← kind
      if k.isPunct ")" || k.isPunct ":" || k.isEof then break
      if acc.size > 0 then discard (expectPunct ",")
      let k ← kind
      if k.isPunct ")" then break
      if k.isPunct "*" || k.isPunct "**" then
        let pos ← next
        let named := match (← kind) with
          | .ident _ => true
          | _ => false
        if k.isPunct "**" then
          let (n, np) ← ident
          acc := acc.push (.starStar n np pos)
        else if named then
          let (n, np) ← ident
          acc := acc.push (.star (some (n, np)) pos)
        else acc := acc.push (.star none pos)
      else
        let (n, np) ← ident
        if (← kind).isPunct "=" then
          let eq ← next
          let d ← test fuel
          acc := acc.push (.withDefault n np eq d)
        else acc := acc.push (.plain n np)
    return acc.toList

end

mutual

/-- A statement: a compound one, or a line of simple ones. -/
def stmt : Nat → ParseM (List Stmt)
  | 0 => tooDeep
  | fuel + 1 => do
    let k ← kind
    if k.isKeyword "def" then return [← define fuel]
    if k.isKeyword "if" then return [← ifElse fuel]
    if k.isKeyword "for" then return [← forLoop fuel]
    if k.isKeyword "while" then return [← whileLoop fuel]
    simpleStmt fuel true

/-- A function definition. -/
def define : Nat → ParseM Stmt
  | 0 => tooDeep
  | fuel + 1 => do
    let pos ← next
    let (name, np) ← ident
    discard (expectPunct "(")
    let ps ← params fuel
    discard (expectPunct ")")
    discard (expectPunct ":")
    let body ← suite fuel
    return .define name np ps body pos

/-- An `if` statement with its `elif` and `else` parts. -/
def ifElse : Nat → ParseM Stmt
  | 0 => tooDeep
  | fuel + 1 => do
    let pos ← next
    let c ← test fuel
    discard (expectPunct ":")
    let body ← suite fuel
    let mut elifs : Array (Expr × List Stmt × Pos) := #[]
    for _ in [0:(← bound)] do
      if !(← kind).isKeyword "elif" then break
      let p ← next
      let c ← test fuel
      discard (expectPunct ":")
      let b ← suite fuel
      elifs := elifs.push (c, b, p)
    let mut otherwise : List Stmt := []
    if (← kind).isKeyword "else" then
      discard next
      discard (expectPunct ":")
      otherwise ← suite fuel
    let tail := elifs.toList.foldr (fun (c, b, p) acc => [Stmt.ifElse c b acc p]) otherwise
    return .ifElse c body tail pos

/-- A `for` loop. -/
def forLoop : Nat → ParseM Stmt
  | 0 => tooDeep
  | fuel + 1 => do
    let pos ← next
    let vars ← loopVariables fuel
    discard (expectKeyword "in")
    let x ← expr fuel false
    discard (expectPunct ":")
    let body ← suite fuel
    return .forLoop vars x body pos

/-- A `while` loop. -/
def whileLoop : Nat → ParseM Stmt
  | 0 => tooDeep
  | fuel + 1 => do
    let pos ← next
    let c ← test fuel
    discard (expectPunct ":")
    let body ← suite fuel
    return .whileLoop c body pos

/-- Simple statements separated by `;`, and the line end after them. -/
def simpleStmt : Nat → Bool → ParseM (List Stmt)
  | 0, _ => tooDeep
  | fuel + 1, consumeNewline => do
    let mut acc : Array Stmt := #[]
    for _ in [0:(← bound)] do
      acc := acc.push (← smallStmt fuel)
      if !(← kind).isPunct ";" then break
      discard next
      let k ← kind
      if k.isNewline || k.isEof then break
    if !(← kind).isEof && consumeNewline then
      discard (expect .newline TokenKind.isNewline)
    return acc.toList

/-- A simple statement: `return`, a jump, `load`, an assignment or an expression. -/
def smallStmt : Nat → ParseM Stmt
  | 0 => tooDeep
  | fuel + 1 => do
    let k ← kind
    if k.isKeyword "return" then
      let pos ← next
      let k ← kind
      if k.isEof || k.isNewline || k.isPunct ";" then return .ret none pos
      return .ret (some (← expr fuel false)) pos
    if k.isKeyword "break" then return .jump .breakLoop (← next)
    if k.isKeyword "continue" then return .jump .continueLoop (← next)
    if k.isKeyword "pass" then return .jump .pass (← next)
    if k.isKeyword "load" then return ← load fuel
    let x ← expr fuel false
    match assignOp? (← kind) with
    | some op =>
      let pos ← next
      let rhs ← expr fuel false
      return .assign op x rhs pos
    | none => return .expr x

/-- A `load` statement. -/
def load : Nat → ParseM Stmt
  | 0 => tooDeep
  | _ + 1 => do
    let pos ← next
    let lparen ← expectPunct "("
    let module ← match (← kind) with
      | .string s => do discard next; pure s
      | _ => failHere (Bytes.ofString "first operand of load statement must be a string literal")
    let mut names : Array LoadBinding := #[]
    for _ in [0:(← bound)] do
      let k ← kind
      if k.isPunct ")" || k.isEof then break
      discard (expectPunct ",")
      let t ← current
      match t.kind with
      | .punct ")" => break
      | .string s =>
        discard next
        let p : Pos := { t.start with col := t.start.col + 1 }
        names := names.push ⟨s, p, s, p⟩
      | .ident n =>
        discard next
        if !(← kind).isPunct "=" then
          failHere (Bytes.ofString "load operand must be \"" ++ n ++ Bytes.ofString "\" or " ++
            n ++ Bytes.ofString "=\"originalname\" (want '=' after " ++ n ++ Bytes.ofString ")")
        discard (expectPunct "=")
        let t2 ← current
        match t2.kind with
        | .string s =>
          discard next
          names := names.push ⟨n, t.start, s, { t2.start with col := t2.start.col + 1 }⟩
        | _ =>
          failHere (Bytes.ofString "original name of loaded symbol must be quoted: " ++ n ++
            Bytes.ofString "=\"originalname\"")
      | k =>
        failHere (Bytes.ofString "load operand must be \"name\" or localname=\"name\" (got " ++
          k.describe ++ Bytes.ofString ")")
    discard (expectPunct ")")
    if names.isEmpty then
      failAt lparen (Bytes.ofString "load statement must import at least 1 symbol")
    return .load module names.toList pos

/-- The body of a compound statement: an indented block, or simple statements on the same
line. -/
def suite : Nat → ParseM (List Stmt)
  | 0 => tooDeep
  | fuel + 1 => do
    if (← kind).isNewline then
      discard next
      discard (expect .indent fun k => match k with | .indent => true | _ => false)
      let mut acc : Array Stmt := #[]
      for _ in [0:(← bound)] do
        let k ← kind
        if (match k with | .outdent => true | _ => false) || k.isEof then break
        acc := acc ++ (← stmt fuel).toArray
      discard (expect .outdent fun k => match k with | .outdent => true | _ => false)
      return acc.toList
    simpleStmt fuel true

end

/-- The statements of a whole program. -/
def file (fuel : Nat) : ParseM (List Stmt) := do
  let mut acc : Array Stmt := #[]
  for _ in [0:(← bound)] do
    let k ← kind
    if k.isEof then break
    if k.isNewline then
      discard next
    else
      acc := acc ++ (← stmt fuel).toArray
  return acc.toList

end ParseM

/-- The statements of a program text, or the first problem met in reading them. -/
def Program.parse (text : Bytes) : Except SyntaxError (List Stmt) :=
  let (tokens, fault) := Token.scan text
  if tokens.isEmpty then
    match fault with
    | some e => .error e
    | none => .ok []
  else
    ((ParseM.file (16 * tokens.size + 64)).run' { tokens, fault })

end ShaderVariants.Starlark
