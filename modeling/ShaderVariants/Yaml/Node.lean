import ShaderVariants.Yaml.Token.Lexer
/-!
# The node tree of a YAML document

A document is a tree of scalars, sequences and mappings. It is built from the token queue by
descent: a node is an alias, or optional anchor and tag followed by a scalar, a flow
collection, a block collection, or nothing (an empty scalar). Inside a block mapping a value
may be a sequence whose dashes stand at the mapping's own column (an *indentless* sequence);
inside a flow sequence an entry `k: v` is a mapping of one pair.

Only the first document of a stream is read. It ends where the tokens of its root node end;
what follows is looked at only as far as the lexer must read to hand over the next token.

Each node remembers the line it starts on, counted from one, for messages about it. A tag is
kept in full (`!!str` is `tag:yaml.org,2002:str`); an untagged node has the empty tag.
-/

namespace ShaderVariants.Yaml

/-- A node of a YAML document. -/
inductive Node where
  | scalar (text : Bytes) (style : ScalarStyle) (tag : Bytes) (line : Nat)
  | sequence (items : List Node) (tag : Bytes) (line : Nat)
  | mapping (entries : List (Node × Node)) (tag : Bytes) (line : Nat)
  deriving Inhabited, Repr

namespace Node

/-- The line a node starts on, from one. -/
def line : Node → Nat
  | scalar _ _ _ n | sequence _ _ n | mapping _ _ n => n

/-- The empty scalar standing for a missing node at `m`. -/
def empty (m : Mark) : Node := .scalar [] .plain [] (m.line + 1)

end Node

/-- The prefix of the standard tags, which `!!` stands for. -/
def standardTagPrefix : Bytes := Bytes.ofString "tag:yaml.org,2002:"

/-- What the tree builder holds besides the lexer: the anchors defined so far and the tag
handles in force. -/
structure Builder where
  lexer : Lexer
  anchors : List (Bytes × Node) := []
  handles : List (Bytes × Bytes) := [([33], [33]), ([33, 33], standardTagPrefix)]

/-- A step of the tree builder. -/
abbrev BuildM := StateT Builder (Except Fault)

namespace BuildM

/-- Run a lexer step. -/
def lex (m : LexM α) : BuildM α := fun b => do
  let (a, l) ← m.run b.lexer
  return (a, { b with lexer := l })

/-- The next token. -/
def peek : BuildM Token := lex LexM.peek

/-- Take the next token. -/
def take : BuildM Unit := lex LexM.take

/-- A tree built deeper than the text is long: it cannot happen, as every level takes a token. -/
def exhausted : Fault := Fault.general (Bytes.ofString "document nests too deeply")

/-- Remember a node under an anchor name. -/
def define (anchor : Option Bytes) (n : Node) : BuildM Node := do
  if let some a := anchor then
    modify fun b => { b with anchors := (a, n) :: b.anchors }
  return n

/-- Whether a token ends a block entry or key without a node. -/
def endsBlockPart : TokenKind → Bool
  | .key | .value | .blockEnd => true
  | _ => false

mutual

/-- A node; `block` allows block collections, `indentless` a sequence whose dashes stand at the
enclosing mapping's column. -/
def node : Nat → Bool → Bool → BuildM Node
  | 0, _, _ => throw exhausted
  | fuel + 1, block, indentless => do
    let t ← peek
    if let .alias name := t.kind then
      take
      match (← get).anchors.lookup name with
      | some n => return n
      | none => throw (Fault.general
          (Bytes.ofString "unknown anchor '" ++ name ++ Bytes.ofString "' referenced"))
    let start := t.start
    let mut t := t
    let mut anchor : Option Bytes := none
    let mut tagged : Option (Bytes × Bytes × Mark) := none
    if let .anchor a := t.kind then
      anchor := some a
      take
      t ← peek
      if let .tag h s := t.kind then
        tagged := some (h, s, t.start)
        take
        t ← peek
    else if let .tag h s := t.kind then
      tagged := some (h, s, t.start)
      take
      t ← peek
      if let .anchor a := t.kind then
        anchor := some a
        take
        t ← peek
    let tag ← match tagged with
      | none => pure []
      | some (h, s, m) =>
        if h.isEmpty then pure s
        else match (← get).handles.lookup h with
          | some p => pure (p ++ s)
          | none => throw (Fault.parsing start m "found undefined tag handle")
    let line := start.line + 1
    match t.kind with
    | .blockEntry =>
      if indentless then define anchor (.sequence (← indentlessEntries fuel []) tag line)
      else if anchor.isSome || !tag.isEmpty then define anchor (.scalar [] .plain tag line)
      else throw (Fault.parsing start t.start "did not find expected node content")
    | .scalar text style =>
      take
      define anchor (.scalar text style tag line)
    | .flowSequenceStart =>
      take
      define anchor (.sequence (← flowItems fuel t.start true []) tag line)
    | .flowMappingStart =>
      take
      define anchor (.mapping (← flowPairs fuel t.start true []) tag line)
    | .blockSequenceStart =>
      if block then
        take
        define anchor (.sequence (← blockEntries fuel t.start []) tag line)
      else if anchor.isSome || !tag.isEmpty then define anchor (.scalar [] .plain tag line)
      else throw (Fault.parsing start t.start "did not find expected node content")
    | .blockMappingStart =>
      if block then
        take
        define anchor (.mapping (← blockPairs fuel t.start []) tag line)
      else if anchor.isSome || !tag.isEmpty then define anchor (.scalar [] .plain tag line)
      else throw (Fault.parsing start t.start "did not find expected node content")
    | _ =>
      if anchor.isSome || !tag.isEmpty then define anchor (.scalar [] .plain tag line)
      else throw (Fault.parsing start t.start "did not find expected node content")

/-- The entries of a block sequence, up to its end. -/
def blockEntries : Nat → Mark → List Node → BuildM (List Node)
  | 0, _, _ => throw exhausted
  | fuel + 1, context, acc => do
    let t ← peek
    match t.kind with
    | .blockEntry =>
      take
      let u ← peek
      let item ← match u.kind with
        | .blockEntry | .blockEnd => pure (Node.empty t.stop)
        | _ => node fuel true false
      blockEntries fuel context (item :: acc)
    | .blockEnd =>
      take
      return acc.reverse
    | _ => throw (Fault.parsing context t.start "did not find expected '-' indicator")

/-- The entries of an indentless sequence, while dashes follow. -/
def indentlessEntries : Nat → List Node → BuildM (List Node)
  | 0, _ => throw exhausted
  | fuel + 1, acc => do
    let t ← peek
    match t.kind with
    | .blockEntry =>
      take
      let u ← peek
      let item ← match u.kind with
        | .blockEntry | .key | .value | .blockEnd => pure (Node.empty t.stop)
        | _ => node fuel true false
      indentlessEntries fuel (item :: acc)
    | _ => return acc.reverse

/-- The pairs of a block mapping, up to its end. -/
def blockPairs : Nat → Mark → List (Node × Node) → BuildM (List (Node × Node))
  | 0, _, _ => throw exhausted
  | fuel + 1, context, acc => do
    let t ← peek
    match t.kind with
    | .key =>
      take
      let u ← peek
      let k ← if endsBlockPart u.kind then pure (Node.empty t.stop) else node fuel true true
      let v ← peek
      let value ← match v.kind with
        | .value => do
          take
          let w ← peek
          if endsBlockPart w.kind then pure (Node.empty v.stop) else node fuel true true
        | _ => pure (Node.empty v.start)
      blockPairs fuel context ((k, value) :: acc)
    | .blockEnd =>
      take
      return acc.reverse
    | _ => throw (Fault.parsing context t.start "did not find expected key")

/-- The items of a flow sequence, up to its `]`. -/
def flowItems : Nat → Mark → Bool → List Node → BuildM (List Node)
  | 0, _, _, _ => throw exhausted
  | fuel + 1, context, first, acc => do
    let mut t ← peek
    if let .flowSequenceEnd := t.kind then
      take
      return acc.reverse
    if !first then
      if let .flowEntry := t.kind then
        take
        t ← peek
      else throw (Fault.parsing context t.start "did not find expected ',' or ']'")
    match t.kind with
    | .flowSequenceEnd =>
      take
      return acc.reverse
    | .key =>
      take
      let u ← peek
      let k ← match u.kind with
        | .value | .flowEntry | .flowSequenceEnd => pure (Node.empty u.start)
        | _ => node fuel false false
      let v ← peek
      let value ← match v.kind with
        | .value => do
          take
          let w ← peek
          match w.kind with
          | .flowEntry | .flowSequenceEnd => pure (Node.empty w.start)
          | _ => node fuel false false
        | _ => pure (Node.empty v.start)
      flowItems fuel context false (.mapping [(k, value)] [] (t.start.line + 1) :: acc)
    | _ =>
      let item ← node fuel false false
      flowItems fuel context false (item :: acc)

/-- The pairs of a flow mapping, up to its `}`. -/
def flowPairs : Nat → Mark → Bool → List (Node × Node) → BuildM (List (Node × Node))
  | 0, _, _, _ => throw exhausted
  | fuel + 1, context, first, acc => do
    let mut t ← peek
    if let .flowMappingEnd := t.kind then
      take
      return acc.reverse
    if !first then
      if let .flowEntry := t.kind then
        take
        t ← peek
      else throw (Fault.parsing context t.start "did not find expected ',' or '\x7d'")
    match t.kind with
    | .flowMappingEnd =>
      take
      return acc.reverse
    | .key =>
      take
      let u ← peek
      let k ← match u.kind with
        | .value | .flowEntry | .flowMappingEnd => pure (Node.empty u.start)
        | _ => node fuel false false
      let v ← peek
      let value ← match v.kind with
        | .value => do
          take
          let w ← peek
          match w.kind with
          | .flowEntry | .flowMappingEnd => pure (Node.empty w.start)
          | _ => node fuel false false
        | _ => pure (Node.empty v.start)
      flowPairs fuel context false ((k, value) :: acc)
    | _ =>
      let k ← node fuel false false
      let v ← peek
      flowPairs fuel context false ((k, Node.empty v.start) :: acc)

end

/-- Read the `%YAML` and `%TAG` directives before a document. -/
def directives : Nat → Bool → List (Bytes × Bytes) → BuildM (List (Bytes × Bytes))
  | 0, _, acc => return acc
  | fuel + 1, seenVersion, acc => do
    let t ← peek
    match t.kind with
    | .versionDirective major minor =>
      if seenVersion then throw (Fault.parsing {} t.start "found duplicate %YAML directive")
      if major != 1 || (minor != 1 && minor != 2) then
        throw (Fault.parsing {} t.start "found incompatible YAML document")
      take
      directives fuel true acc
    | .tagDirective handle pfx =>
      if acc.any (·.1 == handle) then
        throw (Fault.parsing {} t.start "found duplicate %TAG directive")
      take
      directives fuel seenVersion (acc ++ [(handle, pfx)])
    | _ => return acc

/-- The root node of the first document, or none when the stream holds no document. -/
def firstDocument (fuel : Nat) : BuildM (Option Node) := do
  let t ← peek
  match t.kind with
  | .streamStart => take
  | _ => throw (Fault.parsing {} t.start "did not find expected <stream-start>")
  let t ← peek
  if let .streamEnd := t.kind then return none
  let root ← match t.kind with
    | .versionDirective _ _ | .tagDirective _ _ | .documentStart => do
      let own ← directives fuel false []
      modify fun b => { b with handles := own ++ b.handles }
      let t ← peek
      match t.kind with
      | .documentStart => take
      | _ => throw (Fault.parsing {} t.start "did not find expected <document start>")
      let u ← peek
      match u.kind with
      | .versionDirective _ _ | .tagDirective _ _ | .documentStart | .documentEnd
      | .streamEnd => pure (Node.empty u.start)
      | _ => node fuel true false
    | _ => node fuel true false
  let t ← peek
  if let .documentEnd := t.kind then take
  return some root

end BuildM

/-- The root node of the first document of a YAML text, none for a text without documents. -/
def Node.ofBytes? (text : Bytes) : Except Fault (Option Node) := do
  let stream ← (StreamText.ofBytes text).mapError Fault.general
  let lexer := Lexer.ofText stream
  let fuel := 4 * (text.length + stream.body.length) + 16
  let (root, _) ← (BuildM.firstDocument fuel).run { lexer }
  return root

end ShaderVariants.Yaml
