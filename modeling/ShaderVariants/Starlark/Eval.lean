import ShaderVariants.Starlark.Builtin
/-!
# Running Starlark statements

A checked program runs statement by statement. Names live in frames: the module's frame holds
the globals, each call of a function gets a frame for the function's locals, and each
comprehension gets a frame for its loop variables. A frame links to the frame its code was
written in, so a name is looked up outward until the frame that owns it; a name no frame owns
is one the host or the language provides. Reading a name its frame has not yet bound is an
error, named `global` for the module's frame and `local` for the others.

The order of effects is that of the source: operands left to right, a call's function before
its arguments, positional and named arguments in order, then `*args`, then `**kwargs`; an
assignment's right side before its target; a dict display's key before its value.

A function cannot call itself, directly or through others: the calls in progress are kept by
their definition's place (`Machine.calls`), and a call of a definition already among them is
refused. Loops walk a container while counting themselves on it (`RunM.walk`), which keeps the
container from changing under them.

Every step takes a `fuel` argument that bounds the nesting of the run; since no function runs
inside itself, a bound that grows with the program's size is never reached (`Program.fuel`).
-/

namespace ShaderVariants.Starlark

/-- How running statements ends: on to the next statement, out of the innermost loop, on to
its next round, or out of the function with a value. -/
inductive Flow where
  | next
  | breakLoop
  | continueLoop
  | ret (v : Value)
  deriving Inhabited

/-- What the innermost round of a comprehension adds: an item of a list, or an entry of a
dict. -/
inductive Yield where
  | item (body : Expr)
  | entry (key value : Expr)

/-! ## The names a block binds -/

/-- The names an assignment target binds. -/
def Expr.targetNames : Expr → List Bytes
  | .name n _ => [n]
  | .tuple items _ | .list items _ => items.attach.flatMap fun ⟨x, _⟩ => x.targetNames
  | .paren e _ => e.targetNames
  | _ => []

/-- An expression without the brackets around it. -/
def Expr.unparen : Expr → Expr
  | .paren e _ => e.unparen
  | e => e

mutual

/-- The names a statement binds in the block it stands in; those bound inside a function or
comprehension it holds are the inner block's own. -/
def Stmt.boundNames : Stmt → List Bytes
  | .assign _ lhs _ _ => lhs.targetNames
  | .define name .. => [name]
  | .ifElse _ yes no _ => Stmt.listBoundNames yes ++ Stmt.listBoundNames no
  | .forLoop vars _ body _ => vars.targetNames ++ Stmt.listBoundNames body
  | .whileLoop _ body _ => Stmt.listBoundNames body
  | .load _ names _ => names.map (·.name)
  | _ => []

/-- The names a list of statements binds. -/
def Stmt.listBoundNames : List Stmt → List Bytes
  | [] => []
  | s :: rest => s.boundNames ++ Stmt.listBoundNames rest

end

/-- The names a parameter binds. -/
def Param.names : Param → List Bytes
  | .plain n _ | .withDefault n .. | .starStar n .. => [n]
  | .star (some (n, _)) _ => [n]
  | .star none _ => []

/-- The loop variables of a comprehension's clauses. -/
def Clause.boundNames (cs : List Clause) : List Bytes :=
  cs.flatMap fun
    | .forIn vars _ _ => vars.targetNames
    | .guard .. => []

/-! ## Frames -/

namespace Machine

/-- The frame a reference names. -/
def frame? (m : Machine) (r : Nat) : Option Frame :=
  match m.obj? r with
  | some (.frame f) => some f
  | _ => none

/-- The frame that owns a name, searched outward from a frame through at most `fuel` frames. -/
def owner? (m : Machine) (name : Bytes) : Nat → Nat → Option (Nat × Frame)
  | 0, _ => none
  | fuel + 1, r =>
    match m.frame? r with
    | none => none
    | some f =>
      if f.names.contains name then some (r, f)
      else
        match f.parent with
        | some p => m.owner? name fuel p
        | none => none

end Machine

/-- The value of a name the language provides. -/
def universalValue? (name : Bytes) : Option Value :=
  if name == Bytes.ofString "None" then some .none
  else if name == Bytes.ofString "True" then some (.bool true)
  else if name == Bytes.ofString "False" then some (.bool false)
  else (Builtin.all'.find? fun b => Bytes.ofString b.name == name).map .builtin

namespace RunM

/-- The value of a name, looked up outward from a frame. -/
def lookup (fr : Nat) (name : Bytes) : RunM Value := do
  let m ← get
  match m.owner? name (m.heap.size + 1) fr with
  | some (_, f) =>
    match f.values.lookup name with
    | some v => return v
    | none =>
      let scope := if f.kind == .module then "global" else "local"
      throw (Bytes.ofString (scope ++ " variable ") ++ name ++
        Bytes.ofString " referenced before assignment")
  | none =>
    match universalValue? name with
    | some v => return v
    | none => throw (Bytes.ofString "undefined: " ++ name)

/-- Bind a name in the frame that owns it. -/
def bindName (fr : Nat) (name : Bytes) (v : Value) : RunM Unit := do
  let m ← get
  match m.owner? name (m.heap.size + 1) fr with
  | some (r, f) =>
    let values := if f.values.any (·.1 == name) then
        f.values.map fun (k, w) => if k == name then (k, v) else (k, w)
      else f.values ++ [(name, v)]
    store r (.frame { f with values })
  | none => throw (Bytes.ofString "undefined: " ++ name)

/-- `x[y] = z`. -/
def setIndex (x y z : Value) : RunM Unit := do
  match x with
  | .dict r => dictSet r y z
  | .list r =>
    let items := (← get).listItems r
    let i ← lift (asInt32 y)
    let n := items.size
    let j := if i < 0 then i + n else i
    if j < 0 || j ≥ n then outOfRange i n x
    checkMutable r "assign to element of" "list"
    setListItems r (items.set! j.toNat z)
  | _ => fail (x.typeName ++ " value does not support item assignment")

/-- `x op= y`: a list grows by the items of an iterable and a dict takes the entries of a
dict in place; otherwise the operator makes a new value. -/
def inplace (op : BinOp) (x y : Value) : RunM Value := do
  let m ← get
  match op, x, y with
  | .add, .list r, _ =>
    match y.items? m with
    | some ys =>
      checkMutable r "apply += to" "list"
      setListItems r (m.listItems r ++ ys.toArray)
      return x
    | none => binary op x y
  | .bitOr, .dict r, .dict s =>
    checkMutable r "apply |= to" "hash table"
    for (k, v) in (m.dictEntries s).toList do dictSet r k v
    return x
  | _, _, _ => binary op x y

/-- The message of a failed call of a function, naming the function. -/
def callFailure {α : Type} (fname : Bytes) (msg : Bytes) : RunM α :=
  throw (Bytes.ofString "function " ++ fname ++ [32] ++ msg)

/-- Bind a call's arguments to a function's parameters: positional arguments to the leading
parameters and the surplus to `*name`, each named argument to the parameter of its name or
else to `**name`, and defaults to the parameters still unbound. The bindings of the call's
frame, or the message of the first mismatch. -/
def bindParams (c : Closure) (a : Args) : RunM (List (Bytes × Value)) := do
  let say (s : String) : Bytes := Bytes.ofString s
  -- The ordinary parameters: name, default, and whether it follows `*`.
  let (ordinary, _) := c.params.foldl (fun (acc : List (Bytes × Option Value × Bool) × Bool) p =>
    let (ps, afterStar) := acc
    match p with
    | .required n => (ps ++ [(n, none, afterStar)], afterStar)
    | .optional n d => (ps ++ [(n, some d, afterStar)], afterStar)
    | .varargs _ => (ps, true)
    | .kwargs _ => (ps, afterStar)) ([], false)
  let varargs := c.params.findSome? fun
    | .varargs (some n) => some n
    | _ => none
  let kwargs := c.params.findSome? fun
    | .kwargs n => some n
    | _ => none
  let nparams := ordinary.length
  let numParams := nparams + (if varargs.isSome then 1 else 0) + (if kwargs.isSome then 1 else 0)
  let given := a.positional.length + a.named.length
  if numParams == 0 then
    if given > 0 then
      callFailure c.name (say ("accepts no arguments (" ++ toString given ++ " given)"))
    return []
  let nonKeywordOnly := (ordinary.filter fun (_, _, k) => !k).length
  let keywordOnly := nparams - nonKeywordOnly
  let withDefaults := (ordinary.filter fun (_, d, k) => d.isSome || k).length
  let mut n := a.positional.length
  if n > nonKeywordOnly then
    if varargs.isNone then
      callFailure c.name (say ("accepts " ++
        (if withDefaults > keywordOnly then "at most " else "") ++ toString nonKeywordOnly ++
        " positional argument" ++ (if nonKeywordOnly == 1 then "" else "s") ++ " (" ++
        toString n ++ " given)"))
    n := nonKeywordOnly
  let mut slots : Array (Option Value) :=
    (a.positional.take n).toArray.map some ++ Array.replicate (nparams - n) none
  let mut extra : Array (Value × Value) := #[]
  for (k, v) in a.named do
    match ordinary.findIdx? (·.1 == k) with
    | some i =>
      if (slots[i]?.getD none).isSome then
        callFailure c.name (say "got multiple values for parameter " ++ Bytes.quote k)
      slots := slots.set! i (some v)
    | none =>
      if kwargs.isNone then
        callFailure c.name (say "got an unexpected keyword argument " ++ Bytes.quote k)
      if extra.any (fun (e, _) => match e with
          | .str s => s == k
          | _ => false) then
        callFailure c.name (say "got multiple values for parameter " ++ Bytes.quote k)
      extra := extra.push (.str k, v)
  let mut missing : List Bytes := []
  if n < nparams || keywordOnly > 0 then
    let firstDefault := nparams - withDefaults
    for ((name, dflt, _), i) in ordinary.zipIdx do
      if i < n || (slots[i]?.getD none).isSome then continue
      if i < firstDefault then missing := missing ++ [name]
      else
        match dflt with
        | some d => slots := slots.set! i (some d)
        | none => missing := missing ++ [name]
  if !missing.isEmpty then
    callFailure c.name (say ("missing " ++ toString missing.length ++ " argument" ++
      (if missing.length > 1 then "s" else "") ++ " (") ++
      Bytes.intercalate (say ", ") missing ++ say ")")
  let mut values : List (Bytes × Value) := ordinary.zipIdx.filterMap fun ((name, _, _), i) =>
    (slots[i]?.getD none).map (name, ·)
  if let some vn := varargs then values := values ++ [(vn, .tuple (a.positional.drop n))]
  if let some kn := kwargs then
    let d ← alloc (.dict extra 0)
    values := values ++ [(kn, .dict d)]
  return values

/-- The methods of a value, by the name a method value holds. -/
def methodName (recv : Value) (name : Bytes) : String :=
  (recv.attrNames.find? fun n => Bytes.ofString n == name).getD ""

mutual

/-- The value of an expression in a frame. -/
def eval : Nat → Nat → Expr → RunM Value
  | 0, _, _ => fail "evaluation too deep"
  | fuel + 1, fr, e =>
    match e with
    | .name n _ => lookup fr n
    | .int n _ => return .int n
    | .float x _ => return .float x
    | .string s _ => return .str s
    | .bytes s _ => return .bytes s
    | .list items _ => do newList (← evalList fuel fr items)
    | .tuple items _ => return .tuple (← evalList fuel fr items)
    | .dict entries _ => do
      let r ← alloc (.dict #[] 0)
      for en in entries do
        match en with
        | .mk k v =>
          let kv ← eval fuel fr k
          let vv ← eval fuel fr v
          let before := ((← get).dictEntries r).size
          dictSet r kv vv
          if ((← get).dictEntries r).size == before then
            throw (Bytes.ofString "duplicate key: " ++ kv.show (← get))
      return .dict r
    | .paren x _ => eval fuel fr x
    | .listComp body clauses _ => do
      let acc ← alloc (.list #[] 0)
      let cf ← alloc (.frame
        { kind := .comprehension, names := Clause.boundNames clauses, parent := some fr })
      comprehend fuel fr cf acc (.item body) clauses
      return .list acc
    | .dictComp k v clauses _ => do
      let acc ← alloc (.dict #[] 0)
      let cf ← alloc (.frame
        { kind := .comprehension, names := Clause.boundNames clauses, parent := some fr })
      comprehend fuel fr cf acc (.entry k v) clauses
      return .dict acc
    | .unary op x _ => do unary op (← eval fuel fr x)
    | .binary .and x y _ => do
      let a ← eval fuel fr x
      if a.truth (← get) then eval fuel fr y else return a
    | .binary .or x y _ => do
      let a ← eval fuel fr x
      if a.truth (← get) then return a else eval fuel fr y
    | .binary op x y _ => do
      let a ← eval fuel fr x
      let b ← eval fuel fr y
      if op.isComparison then return .bool (← lift (compare (← get) compareDepth op a b))
      binary op a b
    | .cond yes test no => do
      if (← eval fuel fr test).truth (← get) then eval fuel fr yes else eval fuel fr no
    | .lambda params body pos =>
      function fuel fr (Bytes.ofString "lambda") pos params [.ret (some body) pos]
    | .call fn args _ => do
      let f ← eval fuel fr fn
      let mut positional : Array Value := #[]
      let mut named : Array (Bytes × Value) := #[]
      let mut star : Option Expr := none
      let mut starStar : Option Expr := none
      for arg in args do
        match arg with
        | .positional x => positional := positional.push (← eval fuel fr x)
        | .named n _ x => named := named.push (n, ← eval fuel fr x)
        | .star x _ => star := some x
        | .starStar x _ => starStar := some x
      let starValue ← match star with
        | some x => some <$> eval fuel fr x
        | none => pure none
      let starStarValue ← match starStar with
        | some x => some <$> eval fuel fr x
        | none => pure none
      match starStarValue with
      | some (.dict r) =>
        let es := (← get).dictEntries r
        for (k, v) in es.toList do
          match k with
          | .str s => named := named.push (s, v)
          | _ => fail ("keywords must be strings, not " ++ k.typeName)
      | some v => fail ("argument after ** must be a mapping, not " ++ v.typeName)
      | none => pure ()
      match starValue with
      | some v =>
        match v.items? (← get) with
        | some xs => positional := positional ++ xs.toArray
        | none => fail ("argument after * must be iterable, not " ++ v.typeName)
      | none => pure ()
      call fuel f { positional := positional.toList, named := named.toList }
    | .index x i => do
      let xv ← eval fuel fr x
      index xv (← eval fuel fr i)
    | .slice x lo hi step => do
      let xv ← eval fuel fr x
      let lov ← evalOpt fuel fr lo
      let hiv ← evalOpt fuel fr hi
      let stepv ← evalOpt fuel fr step
      slice xv (some lov) (some hiv) (some stepv)
    | .dot x name _ => do getAttr (← eval fuel fr x) name

/-- The values of expressions, in order. -/
def evalList : Nat → Nat → List Expr → RunM (List Value)
  | 0, _, _ => fail "evaluation too deep"
  | fuel + 1, fr, xs => xs.mapM (eval fuel fr)

/-- The value of an expression that may be left out; `None` when it is. -/
def evalOpt : Nat → Nat → Option Expr → RunM Value
  | 0, _, _ => fail "evaluation too deep"
  | fuel + 1, fr, x =>
    match x with
    | some e => eval fuel fr e
    | none => return .none

/-- Run the clauses of a comprehension from the given one on. `outer` is the frame the next
`for` clause's iterable is evaluated in: the enclosing frame for the first clause, the
comprehension's own for the others. -/
def comprehend : Nat → Nat → Nat → Nat → Yield → List Clause → RunM Unit
  | 0, _, _, _, _, _ => fail "evaluation too deep"
  | fuel + 1, outer, fr, acc, y, cs =>
    match cs with
    | [] =>
      match y with
      | .item body => do
        let v ← eval fuel fr body
        setListItems acc (((← get).listItems acc).push v)
      | .entry k v => do
        let kv ← eval fuel fr k
        let vv ← eval fuel fr v
        dictSet acc kv vv
    | .guard c _ :: rest => do
      if (← eval fuel fr c).truth (← get) then comprehend fuel fr fr acc y rest
    | .forIn vars x _ :: rest => do
      let xv ← eval fuel outer x
      let some items := xv.items? (← get) | fail (xv.typeName ++ " value is not iterable")
      walk xv 1
      for item in items do
        assign fuel fr vars item
        comprehend fuel fr fr acc y rest
      walk xv (-1)

/-- Make a function from a definition run in a frame: its defaults are evaluated now, in
order. -/
def function : Nat → Nat → Bytes → Pos → List Param → List Stmt → RunM Value
  | 0, _, _, _, _, _ => fail "evaluation too deep"
  | fuel + 1, fr, name, site, params, body => do
    let mut specs : List ParamSpec := []
    for p in params do
      match p with
      | .plain n _ => specs := specs ++ [.required n]
      | .withDefault n _ _ d => specs := specs ++ [.optional n (← eval fuel fr d)]
      | .star n _ => specs := specs ++ [.varargs (n.map (·.1))]
      | .starStar n _ _ => specs := specs ++ [.kwargs n]
    let locals := params.flatMap Param.names ++ Stmt.listBoundNames body
    let r ← alloc (.closure { name, site, params := specs, body, frame := fr, locals })
    return .function r

/-- Call a value with arguments. -/
def call : Nat → Value → Args → RunM Value
  | 0, _, _ => fail "evaluation too deep"
  | fuel + 1, f, a =>
    match f with
    | .builtin b => callBuiltin (fun g x => call fuel g { positional := [x] }) b a
    | .method recv name =>
      match recv with
      | .str s => textMethod s (methodName recv name) a
      | .bytes s => bytesMethod s (methodName recv name) a
      | .list r => listMethod recv r (methodName recv name) a
      | .dict r => dictMethod recv r (methodName recv name) a
      | _ => fail ("invalid call of non-function (" ++ f.typeName ++ ")")
    | .function r => do
      let m ← get
      match m.closure? r with
      | none => fail ("invalid call of non-function (" ++ f.typeName ++ ")")
      | some c =>
        if m.calls.contains c.site then
          throw (Bytes.ofString "function " ++ c.name ++ Bytes.ofString " called recursively")
        let values ← bindParams c a
        let fr ← alloc (.frame
          { kind := .function, names := c.locals, values, parent := some c.frame })
        modify fun m => { m with calls := c.site :: m.calls }
        let flow ← execList fuel fr c.body
        modify fun m => { m with calls := m.calls.drop 1 }
        match flow with
        | .ret v => return v
        | _ => return .none
    | _ => fail ("invalid call of non-function (" ++ f.typeName ++ ")")

/-- Assign a value to a target: a name, an item, a field, or a tuple or list of targets that
the value's items are unpacked into. -/
def assign : Nat → Nat → Expr → Value → RunM Unit
  | 0, _, _, _ => fail "evaluation too deep"
  | fuel + 1, fr, target, v =>
    match target with
    | .name n _ => bindName fr n v
    | .paren x _ => assign fuel fr x v
    | .tuple targets _ | .list targets _ => do
      match v.items? (← get) with
      | none => fail ("got " ++ v.typeName ++ " in sequence assignment")
      | some xs =>
        let want := targets.length
        if xs.length > want then
          fail ("too many values to unpack (got " ++ toString xs.length ++ ", want " ++
            toString want ++ ")")
        if xs.length < want then
          fail ("too few values to unpack (got " ++ toString xs.length ++ ", want " ++
            toString want ++ ")")
        for (t, x) in targets.zip xs do assign fuel fr t x
    | .index x i => do
      let xv ← eval fuel fr x
      let iv ← eval fuel fr i
      setIndex xv iv v
    | .dot x name _ => do
      let xv ← eval fuel fr x
      throw (Bytes.ofString "can't assign to ." ++ name ++
        Bytes.ofString (" field of " ++ xv.typeName))
    | _ => fail "can't assign to this expression"

/-- `target op= rhs`: the target's place is evaluated once, then its value, then the right
side. -/
def update : Nat → Nat → BinOp → Expr → Expr → RunM Unit
  | 0, _, _, _, _ => fail "evaluation too deep"
  | fuel + 1, fr, op, target, rhs =>
    match target.unparen with
    | .name n _ => do
      let x ← lookup fr n
      let y ← eval fuel fr rhs
      bindName fr n (← inplace op x y)
    | .index xe ie => do
      let xv ← eval fuel fr xe
      let iv ← eval fuel fr ie
      let cur ← index xv iv
      let y ← eval fuel fr rhs
      setIndex xv iv (← inplace op cur y)
    | .dot xe name _ => do
      let xv ← eval fuel fr xe
      let cur ← getAttr xv name
      let y ← eval fuel fr rhs
      discard (inplace op cur y)
      throw (Bytes.ofString "can't assign to ." ++ name ++
        Bytes.ofString (" field of " ++ xv.typeName))
    | _ => fail "can't assign to this expression"

/-- Run a statement in a frame. -/
def exec : Nat → Nat → Stmt → RunM Flow
  | 0, _, _ => fail "evaluation too deep"
  | fuel + 1, fr, s =>
    match s with
    | .expr x => do
      discard (eval fuel fr x)
      return .next
    | .assign none lhs rhs _ => do
      assign fuel fr lhs (← eval fuel fr rhs)
      return .next
    | .assign (some op) lhs rhs _ => do
      update fuel fr op lhs rhs
      return .next
    | .define name _ params body pos => do
      bindName fr name (← function fuel fr name pos params body)
      return .next
    | .ifElse c yes no _ => do
      if (← eval fuel fr c).truth (← get) then execList fuel fr yes else execList fuel fr no
    | .forLoop vars x body _ => do
      let xv ← eval fuel fr x
      let some items := xv.items? (← get) | fail (xv.typeName ++ " value is not iterable")
      walk xv 1
      let mut out := Flow.next
      for item in items do
        assign fuel fr vars item
        match ← execList fuel fr body with
        | .breakLoop => break
        | Flow.ret v =>
          out := .ret v
          break
        | _ => pure ()
      walk xv (-1)
      return out
    | .whileLoop .. => fail "this Starlark dialect does not support while loops"
    | .ret value _ => do
      match value with
      | some x => return .ret (← eval fuel fr x)
      | none => return .ret .none
    | .jump .breakLoop _ => return .breakLoop
    | .jump .continueLoop _ => return .continueLoop
    | .jump .pass _ => return .next
    | .load .. => fail "load not implemented by this application"

/-- Run statements in order until one leaves the block. -/
def execList : Nat → Nat → List Stmt → RunM Flow
  | 0, _, _ => fail "evaluation too deep"
  | fuel + 1, fr, ss => do
    for s in ss do
      match ← exec fuel fr s with
      | .next => pure ()
      | flow => return flow
    return .next

end

end RunM

end ShaderVariants.Starlark
