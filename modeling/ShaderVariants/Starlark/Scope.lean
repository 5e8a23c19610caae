import ShaderVariants.Starlark.Syntax
import ShaderVariants.Text.Quoted
import ShaderVariants.Text.Case
/-!
# Names and placement in a Starlark program

Before a program runs, every name it uses must be bound somewhere it can see, and statements
must stand where they may. This module walks the statements once and reports the first
problem.

Names live in blocks: the file, each function (and lambda), and each comprehension. A name
bound anywhere at the top level of the file is a global, whether the use comes before the
binding or after; a name bound in a function is local to it throughout; a comprehension's loop
variables are its own. A use that no block binds falls to the names the host provides
(`combinations`, `env`) and then to the built-in ones.

The file is held to the restricted dialect: `if`, `for` and `while` only inside functions,
`while` not at all, no global bound twice, `return` only in a function, `break` and
`continue` only in a loop, `load` only at the top level.

Problems found while walking come first, in the order met. Names are looked up after the
walk: those of inner blocks first (a function's body before the file's own statements), each
block's in order of use. A name that is nowhere bound is reported with the nearest spelling
among the bound names the use can see (`nearestName`), if one is close enough.
-/

namespace ShaderVariants.Starlark

/-! ## Spelling suggestions -/

/-- The edit distance between two texts, by bytes: the fewest insertions, deletions and
substitutions that turn one into the other. -/
def editDistance (x y : Bytes) : Nat :=
  let row0 := List.range (y.length + 1)
  let step (row : List Nat) (ix : Nat × UInt8) : List Nat :=
    let (i, cx) := ix
    let init := (i + 1, [i + 1])
    let (_, acc) := (y.zip (row.zip row.tail)).foldl
      (fun (st : Nat × List Nat) (cy, diag, up) =>
        let (left, acc) := st
        let v := min (diag + (if cx == cy then 0 else 1)) (min (left + 1) (up + 1))
        (v, v :: acc)) init
    acc.reverse
  ((x.zipIdx.map fun (c, i) => (i, c)).foldl step row0).getLastD 0

/-- A name as spelling suggestions compare it: without underscores, in lower case, a stray
byte as U+FFFD. -/
def foldName (s : Bytes) : Bytes :=
  (Glyph.decode s).flatMap fun g => if g.code == 95 then [] else Glyph.encode (lowerScalar g.code)

/-- The candidate nearest to `x`, if one is within half of `x`'s length (rounded up, and
strictly below it): the first of the nearest in order. -/
def nearestName (x : Bytes) (candidates : List Bytes) : Option Bytes :=
  let fx := foldName x
  let (best, _) := candidates.foldl (fun (acc : Option Bytes × Nat) c =>
    let d := editDistance fx (foldName c)
    if d < acc.2 then (some c, d) else acc) (none, (fx.length + 1) / 2)
  best

/-- The names every program may use without binding them. -/
def universalNames : List String :=
  ["None", "True", "False", "abs", "all", "any", "bool", "bytes", "chr", "dict", "dir",
    "enumerate", "fail", "float", "getattr", "hasattr", "hash", "int", "len", "list", "max",
    "min", "ord", "print", "range", "repr", "reversed", "set", "sorted", "str", "tuple", "type",
    "zip"]

/-- The names the host provides to configuration programs. -/
def hostNames : List String := ["combinations", "env"]

/-! ## The walk -/

/-- The kinds of block a name can be bound in. -/
inductive BlockKind where
  | file
  | function
  | comprehension
  deriving DecidableEq, Repr

/-- A use of a name: the name, its place, and the block it stands in. -/
structure NameUse where
  name : Bytes
  pos : Pos
  block : Nat

/-- A block: its kind, its parent, the names bound (or already looked up) in it, the uses
still to look up, and the blocks opened inside it. -/
structure ScopeBlock where
  kind : BlockKind
  parent : Nat
  names : List Bytes := []
  uses : Array NameUse := #[]
  children : Array Nat := #[]

/-- The state of the walk. -/
structure Scoper where
  file : Bytes
  blocks : Array ScopeBlock := #[{ kind := .file, parent := 0 }]
  env : Nat := 0
  /-- The globals, with the place of their first binding, in order. -/
  globals : Array (Bytes × Pos) := #[]
  /-- The names bound by `load`, with their places. -/
  loaded : Array (Bytes × Pos) := #[]
  /-- How many loops enclose the current statement within its function. -/
  loops : Nat := 0
  errors : Array SyntaxError := #[]

/-- A step of the walk. -/
abbrev ScopeM := StateM Scoper

namespace ScopeM

/-- Record a problem at a place. -/
def report (pos : Pos) (msg : Bytes) : ScopeM Unit :=
  modify fun s => { s with errors := s.errors.push { pos, message := msg } }

/-- The current block. -/
def block : ScopeM ScopeBlock := do
  let s ← get
  return s.blocks[s.env]?.getD { kind := .file, parent := 0 }

/-- Change a block. -/
def modifyBlock (i : Nat) (f : ScopeBlock → ScopeBlock) : ScopeM Unit :=
  modify fun s => { s with blocks := s.blocks.modify i f }

/-- The innermost enclosing function block, or the file. -/
def container : ScopeM BlockKind := do
  let s ← get
  let mut i := s.env
  for _ in [0:s.blocks.size + 1] do
    match s.blocks[i]? with
    | some b =>
      if b.kind == .comprehension then i := b.parent else return b.kind
    | none => return .file
  return .file

/-- Open a block inside the current one. -/
def push (kind : BlockKind) : ScopeM Unit := do
  let s ← get
  let n := s.blocks.size
  let blocks := (s.blocks.push { kind, parent := s.env }).modify s.env
    fun b => { b with children := b.children.push n }
  set { s with blocks, env := n }

/-- Close the current block. -/
def pop : ScopeM Unit := do
  let b ← block
  modify fun s => { s with env := b.parent }

/-- Record a use of a name. -/
def use (name : Bytes) (pos : Pos) : ScopeM Unit := do
  let s ← get
  modifyBlock s.env fun b => { b with uses := b.uses.push ⟨name, pos, s.env⟩ }

/-- Bind a name in the current block; whether it was bound there already. -/
def bindLocal (name : Bytes) : ScopeM Bool := do
  let b ← block
  if b.names.contains name then return true
  modifyBlock (← get).env fun b => { b with names := b.names ++ [name] }
  return false

/-- Bind a name: a global at the top level, where binding a name twice is refused, and a local
elsewhere. Whether it was bound already. -/
def bind (name : Bytes) (pos : Pos) : ScopeM Bool := do
  let s ← get
  if (← block).kind != .file then return ← bindLocal name
  let prior := match s.globals.find? (fun (g : Bytes × Pos) => g.1 == name) with
    | some (_, p) => some ("global", p)
    | none => match s.loaded.find? (fun (g : Bytes × Pos) => g.1 == name) with
      | some (_, p) => some ("local", p)
      | none => none
  match prior with
  | some (scope, p) =>
    report pos (Bytes.ofString ("cannot reassign " ++ scope ++ " ") ++ name ++
      Bytes.ofString " declared at " ++ p.render s.file)
    return true
  | none =>
    set { s with globals := s.globals.push (name, pos) }
    return false

/-- Leave only the uses of a function block that its own names do not bind. -/
def keepNonLocalUses : ScopeM Unit := do
  modifyBlock (← get).env fun b =>
    { b with uses := b.uses.filter fun u => !b.names.contains u.name }

mutual

/-- Walk an assignment target. -/
def assign : Nat → Expr → Bool → ScopeM Unit
  | 0, _, _ => pure ()
  | fuel + 1, lhs, augmented =>
    match lhs with
    | .name n p => discard (bind n p)
    | .index x i => do expr fuel x; expr fuel i
    | .dot x _ _ => expr fuel x
    | .tuple items _ => do
      if augmented then
        report lhs.start (Bytes.ofString "can't use tuple expression in augmented assignment")
      for x in items do assign fuel x augmented
    | .list items _ => do
      if augmented then
        report lhs.start (Bytes.ofString "can't use list expression in augmented assignment")
      for x in items do assign fuel x augmented
    | .paren x _ => assign fuel x augmented
    | _ => report lhs.start (Bytes.ofString ("can't assign to " ++ lhs.kindName))

/-- Walk an expression. -/
def expr : Nat → Expr → ScopeM Unit
  | 0, _ => pure ()
  | fuel + 1, e =>
    match e with
    | .name n p => use n p
    | .int .. | .float .. | .string .. | .bytes .. => pure ()
    | .list items _ | .tuple items _ => do for x in items do expr fuel x
    | .dict entries _ => do
      for en in entries do
        match en with
        | .mk k v => do expr fuel k; expr fuel v
    | .paren x _ | .unary _ x _ | .dot x _ _ => expr fuel x
    | .binary _ x y _ => do expr fuel x; expr fuel y
    | .cond yes c no => do expr fuel c; expr fuel yes; expr fuel no
    | .index x i => do expr fuel x; expr fuel i
    | .slice x lo hi step => do
      expr fuel x
      for part in [lo, hi, step] do
        match part with
        | some y => expr fuel y
        | none => pure ()
    | .listComp body cs _ => comprehension fuel cs [body]
    | .dictComp k v cs _ => comprehension fuel cs [k, v]
    | .lambda ps body _ => function fuel ps [.ret (some body) body.start]
    | .call fn args _ => do
      expr fuel fn
      let mut seenStar := false
      let mut seenStarStar := false
      let mut seenNames : List Bytes := []
      for a in args do
        match a with
        | .starStar x pos =>
          if seenStarStar then report pos (Bytes.ofString "multiple **kwargs not allowed")
          seenStarStar := true
          expr fuel x
        | .star x pos =>
          if seenStarStar then report pos (Bytes.ofString "*args may not follow **kwargs")
          else if seenStar then report pos (Bytes.ofString "multiple *args not allowed")
          seenStar := true
          expr fuel x
        | .named n pos x =>
          if seenStarStar then
            report pos (Bytes.ofString "keyword argument may not follow **kwargs")
          else if seenStar then
            report pos (Bytes.ofString "keyword argument may not follow *args")
          if seenNames.contains n then
            report pos (Bytes.ofString "keyword argument " ++ Bytes.quote n ++
              Bytes.ofString " is repeated")
          else seenNames := seenNames ++ [n]
          expr fuel x
        | .positional x =>
          if seenStar then
            report x.start (Bytes.ofString "positional argument may not follow *args")
          else if seenStarStar then
            report x.start (Bytes.ofString "positional argument may not follow **kwargs")
          else if !seenNames.isEmpty then
            report x.start (Bytes.ofString "positional argument may not follow named")
          expr fuel x

/-- Walk a comprehension: the first iterable outside, the rest in a block of its own. -/
def comprehension : Nat → List Clause → List Expr → ScopeM Unit
  | 0, _, _ => pure ()
  | fuel + 1, cs, body => do
    match cs with
    | .forIn _ x _ :: _ => expr fuel x
    | _ => pure ()
    push .comprehension
    match cs with
    | .forIn vars _ _ :: _ => assign fuel vars false
    | _ => pure ()
    for c in cs.drop 1 do
      match c with
      | .guard x _ => expr fuel x
      | .forIn vars x _ => do assign fuel vars false; expr fuel x
    for x in body do expr fuel x
    pop

/-- Walk a function: defaults outside, parameters and body in a block of its own. -/
def function : Nat → List Param → List Stmt → ScopeM Unit
  | 0, _, _ => pure ()
  | fuel + 1, ps, body => do
    for p in ps do
      match p with
      | .withDefault _ _ _ d => expr fuel d
      | _ => pure ()
    push .function
    let savedLoops := (← get).loops
    modify fun s => { s with loops := 0 }
    let mut seenOptional := false
    let mut star : Option (Option (Bytes × Pos) × Pos) := none
    let mut starStar : Option (Bytes × Pos) := none
    let mut keywordOnly := 0
    for p in ps do
      match p with
      | .plain n pos =>
        match starStar with
        | some (k, _) =>
          report pos (Bytes.ofString "required parameter may not follow **" ++ k)
        | none =>
          if star.isSome then keywordOnly := keywordOnly + 1
          else if seenOptional then
            report pos (Bytes.ofString "required parameter may not follow optional")
        if ← bind n pos then report pos (Bytes.ofString "duplicate parameter: " ++ n)
      | .withDefault n _ eq _ =>
        match starStar with
        | some (k, _) =>
          report eq (Bytes.ofString "optional parameter may not follow **" ++ k)
        | none => if star.isSome then keywordOnly := keywordOnly + 1
        if ← bind n eq then report eq (Bytes.ofString "duplicate parameter: " ++ n)
        seenOptional := true
      | .star name pos =>
        match starStar with
        | some (k, _) => report pos (Bytes.ofString "* parameter may not follow **" ++ k)
        | none =>
          if star.isSome then report pos (Bytes.ofString "multiple * parameters not allowed")
          else star := some (name, pos)
      | .starStar n np pos =>
        if starStar.isSome then
          report pos (Bytes.ofString "multiple ** parameters not allowed")
        starStar := some (n, np)
    match star with
    | some (some (n, np), _) =>
      if ← bind n np then report np (Bytes.ofString "duplicate parameter: " ++ n)
    | some (none, pos) =>
      if keywordOnly == 0 then
        report pos (Bytes.ofString "bare * must be followed by keyword-only parameters")
    | none => pure ()
    match starStar with
    | some (n, np) =>
      if ← bind n np then report np (Bytes.ofString "duplicate parameter: " ++ n)
    | none => pure ()
    stmts fuel body
    keepNonLocalUses
    pop
    modify fun s => { s with loops := savedLoops }

/-- Walk statements in order. -/
def stmts : Nat → List Stmt → ScopeM Unit
  | 0, _ => pure ()
  | fuel + 1, ss => do for s in ss do stmt fuel s

/-- Walk a statement. -/
def stmt : Nat → Stmt → ScopeM Unit
  | 0, _ => pure ()
  | fuel + 1, s =>
    match s with
    | .expr x => expr fuel x
    | .jump j pos => do
      if (← get).loops == 0 && j != .pass then
        report pos (Bytes.ofString (j.spelling ++ " not in a loop"))
    | .ifElse c yes no pos => do
      if (← container) != .function then
        report pos (Bytes.ofString "if statement not within a function")
      expr fuel c
      stmts fuel yes
      stmts fuel no
    | .assign op lhs rhs _ => do
      expr fuel rhs
      assign fuel lhs op.isSome
    | .define name np ps body _ => do
      discard (bind name np)
      function fuel ps body
    | .forLoop vars x body pos => do
      if (← container) != .function then
        report pos (Bytes.ofString "for loop not within a function")
      expr fuel x
      assign fuel vars false
      modify fun s => { s with loops := s.loops + 1 }
      stmts fuel body
      modify fun s => { s with loops := s.loops - 1 }
    | .whileLoop c body pos => do
      report pos (Bytes.ofString "this Starlark dialect does not support while loops")
      if (← container) != .function then
        report pos (Bytes.ofString "while loop not within a function")
      expr fuel c
      modify fun s => { s with loops := s.loops + 1 }
      stmts fuel body
      modify fun s => { s with loops := s.loops - 1 }
    | .ret value pos => do
      if (← container) != .function then
        report pos (Bytes.ofString "return statement not within a function")
      match value with
      | some x => expr fuel x
      | none => pure ()
    | .load _ names pos => do
      if (← container) == .function then
        report pos (Bytes.ofString "load statement within a function")
      for nb in names do
        if nb.exported.isEmpty then
          report nb.exportedPos (Bytes.ofString "load: empty identifier")
        else
          if nb.exported.head? == some 95 then
            report nb.exportedPos
              (Bytes.ofString "load: names with leading underscores are not exported: " ++
                nb.exported)
          if ← bindLocal nb.name then
            report nb.pos (Bytes.ofString "cannot reassign top-level " ++ nb.name)
          else if (← block).kind == .file then
            modify fun s => { s with loaded := s.loaded.push (nb.name, nb.pos) }

end

/-- Look up a name used at the top level or not bound in any enclosing block: a name bound by
`load`, a global, a host name or a built-in one; otherwise report it. The built-in `set` is
not part of this dialect, and a use of it is reported. -/
def useToplevel (u : NameUse) : ScopeM Unit := do
  let s ← get
  let isKnown := s.loaded.any (·.1 == u.name) || s.globals.any (·.1 == u.name) ||
    hostNames.any (fun n => Bytes.ofString n == u.name)
  if isKnown then return
  if universalNames.any (fun n => Bytes.ofString n == u.name) then
    if u.name == Bytes.ofString "set" then
      report u.pos (Bytes.ofString "this Starlark dialect does not support sets")
    return
  let mut candidates : List Bytes := []
  let mut i := u.block
  for _ in [0:s.blocks.size + 1] do
    match s.blocks[i]? with
    | some b =>
      candidates := candidates ++ b.names
      if b.kind == .file then break
      i := b.parent
    | none => break
  candidates := candidates ++ (s.loaded.toList.map (·.1)) ++ s.globals.toList.map (·.1)
  let hint := match nearestName u.name (candidates.mergeSort fun a b => !Bytes.lt b a) with
    | some n => Bytes.ofString " (did you mean " ++ n ++ Bytes.ofString "?)"
    | none => []
  report u.pos (Bytes.ofString "undefined: " ++ u.name ++ hint)

/-- Look up a use from a block outward, remembering the name in each block passed. -/
def lookup (u : NameUse) : Nat → Nat → ScopeM Unit
  | 0, _ => pure ()
  | fuel + 1, i => do
    let s ← get
    match s.blocks[i]? with
    | none => pure ()
    | some b =>
      if b.kind == .file then useToplevel u
      else if b.names.contains u.name then pure ()
      else
        lookup u fuel b.parent
        modifyBlock i fun b => { b with names := b.names ++ [u.name] }

/-- Look up the remaining uses of a block and of the blocks inside it, inner blocks first. -/
def resolveUses : Nat → Nat → ScopeM Unit
  | 0, _ => pure ()
  | fuel + 1, i => do
    let s ← get
    match s.blocks[i]? with
    | none => pure ()
    | some b =>
      for c in b.children do resolveUses fuel c
      for u in b.uses do lookup u (s.blocks.size + 1) u.block

end ScopeM

/-- The size of the walk's fuel for a program: more than its nesting depth. -/
def Stmt.depthBound (ss : List Stmt) (textLength : Nat) : Nat := ss.length + textLength + 16

/-- Check a program's names and statement placement; the first problem, if any. `file` names
the program in messages that cite a place. -/
def Program.check (file : Bytes) (ss : List Stmt) (textLength : Nat) : Except SyntaxError Unit :=
  let fuel := Stmt.depthBound ss textLength
  let run : ScopeM Unit := do
    ScopeM.stmts fuel ss
    ScopeM.resolveUses ((← get).blocks.size + 1) 0
  let (_, s) := run.run { file }
  match s.errors[0]? with
  | some e => .error e
  | none => .ok ()

end ShaderVariants.Starlark
