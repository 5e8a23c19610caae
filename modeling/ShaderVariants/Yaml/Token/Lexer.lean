import ShaderVariants.Yaml.Token
/-!
# Cutting a YAML stream into tokens

The lexer reads the stream left to right and keeps a queue of tokens that the tree builder
takes from the front. Block structure is not marked in the text, so the lexer derives it:
it keeps a stack of indentation columns, opening a block collection (`blockSequenceStart`,
`blockMappingStart`) when an entry starts right of the current column and closing blocks
(`blockEnd`) when a line starts left of it.

A mapping key need not be announced: `name: x` is a key because a `:` follows it on the same
line. So every place where a key could start is remembered as a *pending key* (one per
flow level), and when a `:` arrives while its key is still pending, a `key` token, and if
needed a `blockMappingStart`, is inserted into the queue before the key's own tokens. A
pending key lapses when its line ends or after 1024 characters; one that had to be a key
(it stood at the indentation column of a block mapping) is then a fault.

The queue is filled lazily: the tree builder asks for a token, and the lexer reads on until
three tokens wait and no pending key could still insert one before them. A fault is therefore
found when the tree builder first needs a token beyond it.

Tabs may separate tokens inside a flow collection and after a scalar, but not where a key may
start: at the start of a line or after `-`, `?` or a complex `:`. There a tab cannot start any
token.
-/

namespace ShaderVariants.Yaml

/-- A place where a mapping key may have started, and whether one must have. -/
structure PendingKey where
  possible : Bool := false
  required : Bool := false
  /-- The number of the first token of the key, counted over the whole stream. -/
  number : Nat := 0
  mark : Mark := {}
  deriving Inhabited

/-- The lexer's state: the text, the reading position, the token queue and the block and flow
structure met so far. -/
structure Lexer where
  input : ByteArray
  pos : Nat := 0
  mark : Mark := {}
  queue : Array Token := #[]
  /-- The index in `queue` of the first token not yet taken. -/
  head : Nat := 0
  /-- How many tokens have been taken. -/
  taken : Nat := 0
  available : Bool := false
  started : Bool := false
  indent : Int := -1
  indents : List Int := []
  keyAllowed : Bool := false
  keys : Array PendingKey := #[]
  flowLevel : Nat := 0
  /-- The last position at which a line that starts between tokens loses its first character,
  if there is one (see `StreamText.markLeadsUntil`). -/
  markLeadsUntil : Option Nat := none

/-- A step of the lexer. -/
abbrev LexM := StateT Lexer (Except Fault)

namespace Lexer

/-! ## Looking at the text -/

/-- The byte `k` places ahead, or zero past the end (a zero byte cannot occur in the text). -/
def byteAt (l : Lexer) (k : Nat) : UInt8 := l.input.data.getD (l.pos + k) 0

/-- Whether the byte `k` places ahead is the given ASCII character. -/
def isAt (l : Lexer) (k : Nat) (c : Char) : Bool := l.byteAt k == c.toUInt8

/-- The double quote. -/
def quoteByte : UInt8 := 34
/-- The single quote. -/
def apostropheByte : UInt8 := 39
/-- The backslash. -/
def backslashByte : UInt8 := 92

/-- Whether a line break starts `k` places ahead: CR, LF, NEL, LS or PS. -/
def isBreakAt (l : Lexer) (k : Nat) : Bool :=
  let b := l.byteAt k
  b == 13 || b == 10 || (b == 0xC2 && l.byteAt (k + 1) == 0x85) ||
    (b == 0xE2 && l.byteAt (k + 1) == 0x80 &&
      (l.byteAt (k + 2) == 0xA8 || l.byteAt (k + 2) == 0xA9))

/-- Whether the text ends `k` places ahead. -/
def isEndAt (l : Lexer) (k : Nat) : Bool := l.byteAt k == 0

/-- A space or a tab. -/
def isBlankAt (l : Lexer) (k : Nat) : Bool := l.isAt k ' ' || l.isAt k '\t'

/-- A blank, a line break or the end. -/
def isBlankzAt (l : Lexer) (k : Nat) : Bool := l.isBlankAt k || l.isBreakAt k || l.isEndAt k

/-- A line break or the end. -/
def isBreakzAt (l : Lexer) (k : Nat) : Bool := l.isBreakAt k || l.isEndAt k

/-- An ASCII letter or digit, `_` or `-`. -/
def isWordAt (l : Lexer) (k : Nat) : Bool :=
  let b := l.byteAt k
  (b ≥ 48 && b ≤ 57) || (b ≥ 65 && b ≤ 90) || (b ≥ 97 && b ≤ 122) || b == 95 || b == 45

/-- An ASCII digit. -/
def isDigitAt (l : Lexer) (k : Nat) : Bool := let b := l.byteAt k; b ≥ 48 && b ≤ 57

/-- A hexadecimal digit. -/
def isHexAt (l : Lexer) (k : Nat) : Bool :=
  let b := l.byteAt k
  (b ≥ 48 && b ≤ 57) || (b ≥ 65 && b ≤ 70) || (b ≥ 97 && b ≤ 102)

/-- The value of a hexadecimal digit. -/
def hexValue (b : UInt8) : Nat :=
  if b ≥ 65 && b ≤ 70 then b.toNat - 55
  else if b ≥ 97 && b ≤ 102 then b.toNat - 87
  else b.toNat - 48

/-- Whether a line that starts here between tokens loses its first character. -/
def markLeads (l : Lexer) : Bool :=
  match l.markLeadsUntil with
  | some e => l.pos ≤ e
  | none => false

/-- The number of bytes of the character at the reading position. -/
def width (l : Lexer) : Nat :=
  let b := l.byteAt 0
  if b &&& 0x80 == 0 then 1
  else if b &&& 0xE0 == 0xC0 then 2
  else if b &&& 0xF0 == 0xE0 then 3
  else if b &&& 0xF8 == 0xF0 then 4
  else 1

/-- The bound on every loop over the text: no loop reads more characters than there are. -/
def bound (l : Lexer) : Nat := l.input.size + 1

/-- A document marker, `---` or `...`, at the start of a line and followed by a blank. -/
def atDocumentMarker (l : Lexer) : Bool :=
  l.mark.column == 0 &&
    ((l.isAt 0 '-' && l.isAt 1 '-' && l.isAt 2 '-') ||
      (l.isAt 0 '.' && l.isAt 1 '.' && l.isAt 2 '.')) && l.isBlankzAt 3

end Lexer

namespace LexM

open Lexer

/-! ## Moving -/

/-- The current mark. -/
def here : LexM Mark := return (← get).mark

/-- Stop with a fault whose construct began at `context`. -/
def fail (context : Mark) (problem : String) : LexM α := do
  throw (Fault.scanning context (← get).mark problem)

/-- Step over one character. -/
def skip : LexM Unit := modify fun l =>
  { l with pos := l.pos + l.width,
           mark := { l.mark with index := l.mark.index + 1, column := l.mark.column + 1 } }

/-- Step over a line break. -/
def skipLine : LexM Unit := modify fun l =>
  if l.isAt 0 '\r' && l.isAt 1 '\n' then
    { l with pos := l.pos + 2, mark := ⟨l.mark.index + 2, l.mark.line + 1, 0⟩ }
  else if l.isBreakAt 0 then
    { l with pos := l.pos + l.width, mark := ⟨l.mark.index + 1, l.mark.line + 1, 0⟩ }
  else l

/-- Copy one character onto `acc` and step over it. -/
def read (acc : Array UInt8) : LexM (Array UInt8) := do
  let l ← get
  let acc := (List.range l.width).foldl (fun a k => a.push (l.byteAt k)) acc
  skip
  return acc

/-- Copy a line break onto `acc`, as LF unless it is LS or PS, and step over it. -/
def readLine (acc : Array UInt8) : LexM (Array UInt8) := do
  let l ← get
  let next (n : Nat) : Lexer :=
    let index := l.mark.index + (if n == 2 && l.isAt 0 '\r' then 2 else 1)
    { l with pos := l.pos + n, mark := ⟨index, l.mark.line + 1, 0⟩ }
  if l.isAt 0 '\r' && l.isAt 1 '\n' then set (next 2); return acc.push 10
  else if l.isAt 0 '\r' || l.isAt 0 '\n' then set (next 1); return acc.push 10
  else if l.byteAt 0 == 0xC2 && l.byteAt 1 == 0x85 then set (next 2); return acc.push 10
  else if l.isBreakAt 0 then
    set (next 3); return (acc.push (l.byteAt 0)).push (l.byteAt 1) |>.push (l.byteAt 2)
  else return acc

/-- Skip spaces and tabs. -/
def skipBlanks : LexM Unit := do
  for _ in [0:(← get).bound] do
    if (← get).isBlankAt 0 then skip else break

/-- Skip the rest of a line up to its break. -/
def skipToBreak : LexM Unit := do
  for _ in [0:(← get).bound] do
    if (← get).isBreakzAt 0 then break
    skip

/-! ## The token queue -/

/-- Append a token to the queue. -/
def push (t : Token) : LexM Unit := modify fun l => { l with queue := l.queue.push t }

/-- Insert a token `k` places after the first token not yet taken. -/
def insertAt (k : Nat) (t : Token) : LexM Unit := modify fun l =>
  let i := l.head + k
  { l with queue := (l.queue.extract 0 i).push t ++ l.queue.extract i l.queue.size }

/-! ## Pending keys -/

/-- Whether pending key `i` can still be a key; a lapsed one is dropped, and a fault if it had
to be a key. -/
def keyValid (i : Nat) : LexM Bool := do
  let l ← get
  match l.keys[i]? with
  | none => return false
  | some k =>
    if !k.possible then return false
    if k.mark.line < l.mark.line || k.mark.index + 1024 < l.mark.index then
      if k.required then fail k.mark "could not find expected ':'"
      set { l with keys := l.keys.modify i fun k => { k with possible := false } }
      return false
    return true

/-- Drop the pending key of the current flow level; a fault if it had to be a key. -/
def removeKey : LexM Unit := do
  let l ← get
  let i := l.keys.size - 1
  match l.keys[i]? with
  | some k =>
    if k.possible then
      if k.required then fail k.mark "could not find expected ':'"
      set { l with keys := l.keys.modify i fun k => { k with possible := false } }
  | none => pure ()

/-- Remember the reading position as a place where a key may start. -/
def saveKey : LexM Unit := do
  let l ← get
  if l.keyAllowed then
    let k : PendingKey :=
      { possible := true,
        required := l.flowLevel == 0 && l.indent == (l.mark.column : Int),
        number := l.taken + (l.queue.size - l.head),
        mark := l.mark }
    removeKey
    modify fun l => { l with keys := l.keys.modify (l.keys.size - 1) fun _ => k }

/-- Enter a flow collection. -/
def increaseFlow : LexM Unit := do
  modify fun l => { l with keys := l.keys.push { mark := l.mark }, flowLevel := l.flowLevel + 1 }
  let l ← get
  if l.flowLevel > 10000 then fail l.mark "exceeded max depth of 10000"

/-- Leave a flow collection. -/
def decreaseFlow : LexM Unit := modify fun l =>
  if l.flowLevel > 0 then { l with flowLevel := l.flowLevel - 1, keys := l.keys.pop } else l

/-! ## Indentation -/

/-- Open a block collection at `column` if it lies right of the current indentation; its start
token goes to the end of the queue, or before token `number` when a pending key opens it. -/
def rollIndent (column : Int) (number : Option Nat) (kind : TokenKind) (mark : Mark) :
    LexM Unit := do
  let l ← get
  if l.flowLevel > 0 then return
  if l.indent < column then
    set { l with indents := l.indent :: l.indents, indent := column }
    if l.indents.length + 1 > 10000 then fail mark "exceeded max depth of 10000"
    let t : Token := ⟨kind, mark, mark⟩
    match number with
    | some n => insertAt (n - l.taken) t
    | none => push t

/-- Close every block collection whose column lies right of `column`. -/
def unrollIndent (column : Int) (scanMark : Mark) : LexM Unit := do
  let l ← get
  if l.flowLevel > 0 then return
  let blockMark := { scanMark with index := scanMark.index - 1 }
  for _ in [0:l.indents.length + 1] do
    let l ← get
    if l.indent > column then
      push ⟨.blockEnd, blockMark, blockMark⟩
      match l.indents with
      | i :: rest => modify fun l => { l with indent := i, indents := rest }
      | [] => modify fun l => { l with indent := -1 }
    else break

/-! ## Stream, directives and document markers -/

/-- Start the stream. -/
def fetchStreamStart : LexM Unit := do
  modify fun l => { l with indent := -1, keys := #[{}], keyAllowed := true, started := true }
  let m ← here
  push ⟨.streamStart, m, m⟩

/-- End the stream: close all blocks. -/
def fetchStreamEnd : LexM Unit := do
  modify fun l =>
    if l.mark.column ≠ 0 then { l with mark := { l.mark with column := 0, line := l.mark.line + 1 } }
    else l
  unrollIndent (-1) (← here)
  removeKey
  modify fun l => { l with keyAllowed := false }
  let m ← here
  push ⟨.streamEnd, m, m⟩

/-- Read a directive's name. -/
def directiveName (start : Mark) : LexM Bytes := do
  let mut s : Array UInt8 := #[]
  for _ in [0:(← get).bound] do
    if (← get).isWordAt 0 then s ← read s else break
  if s.isEmpty then fail start "could not find expected directive name"
  if !(← get).isBlankzAt 0 then fail start "found unexpected non-alphabetical character"
  return s.toList

/-- Read one number of a `%YAML` directive. -/
def versionNumber (start : Mark) : LexM Nat := do
  let mut value := 0
  let mut length := 0
  for _ in [0:(← get).bound] do
    let l ← get
    if !l.isDigitAt 0 then break
    length := length + 1
    if length > 9 then fail start "found extremely long version number"
    value := value * 10 + (l.byteAt 0).toNat - 48
    skip
  if length == 0 then fail start "did not find expected version number"
  return value

/-- Read a tag handle, `!`, `!!` or `!name!`. -/
def tagHandle (directive : Bool) (start : Mark) : LexM Bytes := do
  let problem := "did not find expected '!'"
  if !(← get).isAt 0 '!' then fail start problem
  let mut s ← read #[]
  for _ in [0:(← get).bound] do
    if (← get).isWordAt 0 then s ← read s else break
  if (← get).isAt 0 '!' then
    s ← read s
  else if directive && s.toList != [33] then
    fail start problem
  return s.toList

/-- Read `%XX` escapes forming one UTF-8 character. -/
def uriEscapes (start : Mark) (acc : Array UInt8) : LexM (Array UInt8) := do
  let mut acc := acc
  let mut left := 0
  let mut first := true
  for _ in [0:(← get).bound] do
    if !first && left == 0 then break
    let l ← get
    if !(l.isAt 0 '%' && l.isHexAt 1 && l.isHexAt 2) then
      fail start "did not find URI escaped octet"
    let octet := hexValue (l.byteAt 1) * 16 + hexValue (l.byteAt 2)
    if first then
      left := if octet &&& 0x80 == 0 then 1 else if octet &&& 0xE0 == 0xC0 then 2
        else if octet &&& 0xF0 == 0xE0 then 3 else if octet &&& 0xF8 == 0xF0 then 4 else 0
      if left == 0 then fail start "found an incorrect leading UTF-8 octet"
      first := false
    else if octet &&& 0xC0 != 0x80 then
      fail start "found an incorrect trailing UTF-8 octet"
    acc := acc.push octet.toUInt8
    skip; skip; skip
    left := left - 1
  return acc

/-- Read the rest of a tag: URI characters, `%` escapes, and inside `!<…>` also `,[]`.
`head` is a handle read before that turned out to be part of the suffix. -/
def tagUri (verbatim : Bool) (head : Bytes) (start : Mark) : LexM Bytes := do
  let mut s : Array UInt8 := (head.drop 1).toArray
  let mut found := !head.isEmpty
  for _ in [0:(← get).bound] do
    let l ← get
    let b := l.byteAt 0
    let uriChar := l.isWordAt 0 || (";/?:@&=+$.%!~*()".toList.any fun c => b == c.toUInt8) ||
      b == apostropheByte || (verbatim && (b == 44 || b == 91 || b == 93))
    if !uriChar then break
    if b == 37 then s ← uriEscapes start s else s ← read s
    found := true
  if !found then fail start "did not find expected tag URI"
  return s.toList

/-- Read a directive line. -/
def fetchDirective : LexM Unit := do
  unrollIndent (-1) (← here)
  removeKey
  modify fun l => { l with keyAllowed := false }
  let start ← here
  skip
  let name ← directiveName start
  let kind ← if name == Bytes.ofString "YAML" then do
      skipBlanks
      let major ← versionNumber start
      if !(← get).isAt 0 '.' then fail start "did not find expected digit or '.' character"
      skip
      let minor ← versionNumber start
      pure (TokenKind.versionDirective major minor)
    else if name == Bytes.ofString "TAG" then do
      skipBlanks
      let handle ← tagHandle true start
      if !(← get).isBlankAt 0 then fail start "did not find expected whitespace"
      skipBlanks
      let pfx ← tagUri true [] start
      if !(← get).isBlankzAt 0 then fail start "did not find expected whitespace or line break"
      pure (TokenKind.tagDirective handle pfx)
    else fail start "found unknown directive name"
  let stop ← here
  skipBlanks
  if (← get).isAt 0 '#' then skipToBreak
  if !(← get).isBreakzAt 0 then fail start "did not find expected comment or line break"
  if (← get).isBreakAt 0 then skipLine
  push ⟨kind, start, stop⟩

/-- Read `---` or `...`. -/
def fetchDocumentIndicator (kind : TokenKind) : LexM Unit := do
  unrollIndent (-1) (← here)
  removeKey
  modify fun l => { l with keyAllowed := false }
  let start ← here
  skip; skip; skip
  push ⟨kind, start, ← here⟩

/-! ## Indicators -/

/-- Read `[` or `{`. -/
def fetchFlowCollectionStart (kind : TokenKind) : LexM Unit := do
  saveKey
  increaseFlow
  modify fun l => { l with keyAllowed := true }
  let start ← here
  skip
  push ⟨kind, start, ← here⟩

/-- Read `]` or `}`. -/
def fetchFlowCollectionEnd (kind : TokenKind) : LexM Unit := do
  removeKey
  decreaseFlow
  modify fun l => { l with keyAllowed := false }
  let start ← here
  skip
  push ⟨kind, start, ← here⟩

/-- Read `,`. -/
def fetchFlowEntry : LexM Unit := do
  removeKey
  modify fun l => { l with keyAllowed := true }
  let start ← here
  skip
  push ⟨.flowEntry, start, ← here⟩

/-- Read `-` opening a block sequence entry. -/
def fetchBlockEntry : LexM Unit := do
  let l ← get
  if l.flowLevel == 0 then
    if !l.keyAllowed then fail l.mark "block sequence entries are not allowed in this context"
    rollIndent l.mark.column none .blockSequenceStart l.mark
  removeKey
  modify fun l => { l with keyAllowed := true }
  let start ← here
  skip
  push ⟨.blockEntry, start, ← here⟩

/-- Read `?` announcing a key. -/
def fetchKey : LexM Unit := do
  let l ← get
  if l.flowLevel == 0 then
    if !l.keyAllowed then fail l.mark "mapping keys are not allowed in this context"
    rollIndent l.mark.column none .blockMappingStart l.mark
  removeKey
  modify fun l => { l with keyAllowed := l.flowLevel == 0 }
  let start ← here
  skip
  push ⟨.key, start, ← here⟩

/-- Read `:`; a pending key before it becomes a key. -/
def fetchValue : LexM Unit := do
  let i := (← get).keys.size - 1
  if ← keyValid i then
    let l ← get
    let k := l.keys.getD i {}
    insertAt (k.number - l.taken) ⟨.key, k.mark, k.mark⟩
    rollIndent k.mark.column (some k.number) .blockMappingStart k.mark
    modify fun l => { l with keys := l.keys.modify i fun k => { k with possible := false },
                             keyAllowed := false }
  else
    let l ← get
    if l.flowLevel == 0 then
      if !l.keyAllowed then fail l.mark "mapping values are not allowed in this context"
      rollIndent l.mark.column none .blockMappingStart l.mark
    modify fun l => { l with keyAllowed := l.flowLevel == 0 }
  let start ← here
  skip
  push ⟨.value, start, ← here⟩

/-! ## Anchors, aliases and tags -/

/-- Read `&name` or `*name`. -/
def fetchAnchor (isAlias : Bool) : LexM Unit := do
  saveKey
  modify fun l => { l with keyAllowed := false }
  let start ← here
  skip
  let mut s : Array UInt8 := #[]
  for _ in [0:(← get).bound] do
    if (← get).isWordAt 0 then s ← read s else break
  let l ← get
  let stop := l.mark
  let b := l.byteAt 0
  if s.isEmpty || !(l.isBlankzAt 0 || "?:,]%@".toList.any (fun c => b == c.toUInt8) ||
      b == 125 || b == 96) then
    fail start "did not find expected alphabetic or numeric character"
  push ⟨if isAlias then .alias s.toList else .anchor s.toList, start, stop⟩

/-- Read a tag: `!<uri>`, `!suffix`, `!handle!suffix` or `!`. -/
def fetchTag : LexM Unit := do
  saveKey
  modify fun l => { l with keyAllowed := false }
  let start ← here
  let (handle, suffix) ← if (← get).isAt 1 '<' then do
      skip; skip
      let suffix ← tagUri true [] start
      if !(← get).isAt 0 '>' then fail start "did not find the expected '>'"
      skip
      pure ([], suffix)
    else do
      let handle ← tagHandle false start
      if handle.length > 1 && handle.head? == some 33 && handle.getLast? == some 33 then
        let suffix ← tagUri false [] start
        pure (handle, suffix)
      else
        let suffix ← tagUri false handle start
        if suffix.isEmpty then pure ([], [33]) else pure ([33], suffix)
  let l ← get
  if !l.isBlankzAt 0 && (l.flowLevel == 0 || !l.isAt 0 ',') then
    fail start "did not find expected whitespace or line break"
  push ⟨.tag handle suffix, start, ← here⟩

/-! ## Scalars -/

/-- Skip the indentation and empty lines before a line of a block scalar, collecting the
breaks; fixes the indentation from the first non-empty line when it is not yet known. -/
def blockScalarBreaks (indent : Nat) (breaks : Array UInt8) (start : Mark) :
    LexM (Nat × Array UInt8 × Mark) := do
  let mut stop ← here
  let mut breaks := breaks
  let mut maxIndent := 0
  for _ in [0:(← get).bound] do
    for _ in [0:(← get).bound] do
      let l ← get
      if (indent == 0 || l.mark.column < indent) && l.isAt 0 ' ' then skip else break
    let l ← get
    if l.mark.column > maxIndent then maxIndent := l.mark.column
    if (indent == 0 || l.mark.column < indent) && l.isAt 0 '\t' then
      fail start "found a tab character where an indentation space is expected"
    if !l.isBreakAt 0 then break
    breaks ← readLine breaks
    stop ← here
  let l ← get
  let indent := if indent == 0 then max 1 (max maxIndent (l.indent + 1).toNat) else indent
  return (indent, breaks, stop)

/-- Read a block scalar, `|` (literal) or `>` (folded), with its chomping and indentation
indicators. -/
def fetchBlockScalar (literal : Bool) : LexM Unit := do
  removeKey
  modify fun l => { l with keyAllowed := true }
  let start ← here
  skip
  let mut chomping : Int := 0
  let mut increment := 0
  let l ← get
  if l.isAt 0 '+' || l.isAt 0 '-' then
    chomping := if l.isAt 0 '+' then 1 else -1
    skip
    let l ← get
    if l.isDigitAt 0 then
      if l.isAt 0 '0' then fail start "found an indentation indicator equal to 0"
      increment := (l.byteAt 0).toNat - 48
      skip
  else if l.isDigitAt 0 then
    if l.isAt 0 '0' then fail start "found an indentation indicator equal to 0"
    increment := (l.byteAt 0).toNat - 48
    skip
    let l ← get
    if l.isAt 0 '+' || l.isAt 0 '-' then
      chomping := if l.isAt 0 '+' then 1 else -1
      skip
  skipBlanks
  if (← get).isAt 0 '#' then skipToBreak
  if !(← get).isBreakzAt 0 then fail start "did not find expected comment or line break"
  if (← get).isBreakAt 0 then skipLine
  let l ← get
  let indent : Nat := if increment > 0 then
      (if l.indent ≥ 0 then (l.indent + increment).toNat else increment) else 0
  let (indent, trailing, stop) ← blockScalarBreaks indent #[] start
  let mut s : Array UInt8 := #[]
  let mut leading : Array UInt8 := #[]
  let mut trailing := trailing
  let mut stop := stop
  let mut leadingBlank := false
  for _ in [0:(← get).bound] do
    let l ← get
    if !(l.mark.column == indent && !l.isEndAt 0) then break
    let trailingBlank := l.isBlankAt 0
    if !literal && !leadingBlank && !trailingBlank && leading.toList.head? == some 10 then
      if trailing.isEmpty then s := s.push 32
    else
      s := s ++ leading
    leading := #[]
    s := s ++ trailing
    trailing := #[]
    leadingBlank := l.isBlankAt 0
    for _ in [0:(← get).bound] do
      if (← get).isBreakzAt 0 then break
      s ← read s
    leading ← readLine leading
    let (_, t, e) ← blockScalarBreaks indent trailing start
    trailing := t
    stop := e
  if chomping != -1 then s := s ++ leading
  if chomping == 1 then s := s ++ trailing
  push ⟨.scalar s.toList (if literal then .literal else .folded), start, stop⟩

/-- The bytes of a code point in UTF-8. -/
def utf8 (v : Nat) : List UInt8 :=
  if v ≤ 0x7F then [v.toUInt8]
  else if v ≤ 0x7FF then [(0xC0 + v / 64).toUInt8, (0x80 + v % 64).toUInt8]
  else if v ≤ 0xFFFF then
    [(0xE0 + v / 4096).toUInt8, (0x80 + v / 64 % 64).toUInt8, (0x80 + v % 64).toUInt8]
  else [(0xF0 + v / 262144).toUInt8, (0x80 + v / 4096 % 64).toUInt8,
    (0x80 + v / 64 % 64).toUInt8, (0x80 + v % 64).toUInt8]

/-- What a one-letter escape of a double-quoted scalar stands for. -/
def escapeOf (b : UInt8) : Option (List UInt8) :=
  match b.toNat with
  | 48 => some [0] | 97 => some [7] | 98 => some [8] | 116 => some [9] | 9 => some [9]
  | 110 => some [10] | 118 => some [11] | 102 => some [12] | 114 => some [13]
  | 101 => some [27] | 32 => some [32] | 34 => some [34] | 39 => some [39]
  | 92 => some [92]
  | 78 => some [0xC2, 0x85] | 95 => some [0xC2, 0xA0]
  | 76 => some [0xE2, 0x80, 0xA8] | 80 => some [0xE2, 0x80, 0xA9]
  | _ => none

/-- Fold the blanks between two parts of a quoted or plain scalar: a single line break
becomes a space, further breaks stay, blanks within a line stay. -/
def fold (s leading trailing whitespace : Array UInt8) (leadingBlanks : Bool) : Array UInt8 :=
  if leadingBlanks then
    if leading.toList.head? == some 10 then
      if trailing.isEmpty then s.push 32 else s ++ trailing
    else s ++ leading ++ trailing
  else s ++ whitespace

/-- Read a single- or double-quoted scalar. -/
def fetchFlowScalar (single : Bool) : LexM Unit := do
  saveKey
  modify fun l => { l with keyAllowed := false }
  let start ← here
  skip
  let mut s : Array UInt8 := #[]
  for _ in [0:(← get).bound] do
    let l ← get
    if l.atDocumentMarker then fail start "found unexpected document indicator"
    if l.isEndAt 0 then fail start "found unexpected end of stream"
    let mut leadingBlanks := false
    for _ in [0:(← get).bound] do
      let l ← get
      if l.isBlankzAt 0 then break
      let b := l.byteAt 0
      if single && b == apostropheByte && l.byteAt 1 == apostropheByte then
        s := s.push apostropheByte
        skip; skip
      else if single && b == apostropheByte then break
      else if !single && b == quoteByte then break
      else if !single && b == backslashByte && l.isBreakAt 1 then
        skip; skipLine
        leadingBlanks := true
        break
      else if !single && b == backslashByte then
        let e := l.byteAt 1
        let codeLength := if e == 120 then 2 else if e == 117 then 4 else if e == 85 then 8 else 0
        if codeLength == 0 then
          match escapeOf e with
          | some bs => s := s ++ bs.toArray
          | none => fail start "found unknown escape character"
        skip; skip
        if codeLength > 0 then
          let l ← get
          let mut v := 0
          for k in [0:codeLength] do
            if !l.isHexAt k then fail start "did not find expected hexdecimal number"
            v := v * 16 + hexValue (l.byteAt k)
          if (v ≥ 0xD800 && v ≤ 0xDFFF) || v > 0x10FFFF then
            fail start "found invalid Unicode character escape code"
          s := s ++ (utf8 v).toArray
          for _ in [0:codeLength] do skip
      else
        s ← read s
    let l ← get
    if (single && l.byteAt 0 == apostropheByte) || (!single && l.byteAt 0 == quoteByte) then
      break
    let mut leading : Array UInt8 := #[]
    let mut trailing : Array UInt8 := #[]
    let mut whitespace : Array UInt8 := #[]
    for _ in [0:(← get).bound] do
      let l ← get
      if l.isBlankAt 0 then
        if !leadingBlanks then whitespace ← read whitespace else skip
      else if l.isBreakAt 0 then
        if !leadingBlanks then
          whitespace := #[]
          leading ← readLine leading
          leadingBlanks := true
        else
          trailing ← readLine trailing
      else break
    s := fold s leading trailing whitespace leadingBlanks
  skip
  push ⟨.scalar s.toList (if single then .singleQuoted else .doubleQuoted), start, ← here⟩

/-- Whether a plain scalar ends before the character at the reading position. -/
def endsPlain (l : Lexer) : Bool :=
  (l.isAt 0 ':' && l.isBlankzAt 1) ||
    (l.flowLevel > 0 && (l.isAt 0 ',' || l.isAt 0 '?' || l.isAt 0 '[' || l.isAt 0 ']' ||
      l.byteAt 0 == 123 || l.byteAt 0 == 125))

/-- Read a plain scalar; it runs on over following lines indented right of the current block. -/
def fetchPlainScalar : LexM Unit := do
  saveKey
  modify fun l => { l with keyAllowed := false }
  let start ← here
  let mut stop := start
  let indent : Int := (← get).indent + 1
  let mut s : Array UInt8 := #[]
  let mut leading : Array UInt8 := #[]
  let mut trailing : Array UInt8 := #[]
  let mut whitespace : Array UInt8 := #[]
  let mut leadingBlanks := false
  for _ in [0:(← get).bound] do
    let l ← get
    if l.atDocumentMarker then break
    if l.isAt 0 '#' then break
    for _ in [0:(← get).bound] do
      let l ← get
      if l.isBlankzAt 0 || endsPlain l then break
      if leadingBlanks || !whitespace.isEmpty then
        s := fold s leading trailing whitespace leadingBlanks
        if leadingBlanks then
          leading := #[]; trailing := #[]; leadingBlanks := false
        else whitespace := #[]
      s ← read s
      stop ← here
    let l ← get
    if !(l.isBlankAt 0 || l.isBreakAt 0) then break
    for _ in [0:(← get).bound] do
      let l ← get
      if l.isBlankAt 0 then
        if leadingBlanks && (l.mark.column : Int) < indent && l.isAt 0 '\t' then
          fail start "found a tab character that violates indentation"
        if !leadingBlanks then whitespace ← read whitespace else skip
      else if l.isBreakAt 0 then
        if !leadingBlanks then
          whitespace := #[]
          leading ← readLine leading
          leadingBlanks := true
        else
          trailing ← readLine trailing
      else break
    let l ← get
    if l.flowLevel == 0 && (l.mark.column : Int) < indent then break
  push ⟨.scalar s.toList .plain, start, stop⟩
  if leadingBlanks then modify fun l => { l with keyAllowed := true }

/-! ## The next token -/

/-- Skip blanks, comments and line breaks up to the next token. -/
def scanToNextToken : LexM Unit := do
  for _ in [0:(← get).bound] do
    let l ← get
    if l.mark.column == 0 && l.markLeads then skip
    for _ in [0:(← get).bound] do
      let l ← get
      if l.isAt 0 ' ' || ((l.flowLevel > 0 || !l.keyAllowed) && l.isAt 0 '\t') then skip
      else break
    if (← get).isAt 0 '#' then skipToBreak
    let l ← get
    if l.isBreakAt 0 then
      skipLine
      if l.flowLevel == 0 then modify fun l => { l with keyAllowed := true }
    else break

/-- The characters that cannot start a plain scalar unless a non-blank follows:
`-?:,[]{}#&*!|>'"%@` and the backquote. -/
def indicatorBytes : List UInt8 :=
  [45, 63, 58, 44, 91, 93, 123, 125, 35, 38, 42, 33, 124, 62, 39, 34, 37, 64, 96]

/-- Whether a plain scalar starts at the reading position. -/
def startsPlain (l : Lexer) : Bool :=
  let b := l.byteAt 0
  !(l.isBlankzAt 0 || indicatorBytes.contains b) ||
    (l.isAt 0 '-' && !l.isBlankAt 1) ||
    (l.flowLevel == 0 && (l.isAt 0 '?' || l.isAt 0 ':') && !l.isBlankzAt 1)

/-- Read the next token (or the tokens a pending key or a change of indentation adds). -/
def fetchNextToken : LexM Unit := do
  if !(← get).started then
    fetchStreamStart
    return
  let scanMark ← here
  scanToNextToken
  unrollIndent (← here).column scanMark
  let l ← get
  let col0 := l.mark.column == 0
  if l.isEndAt 0 then fetchStreamEnd
  else if col0 && l.isAt 0 '%' then fetchDirective
  else if col0 && l.isAt 0 '-' && l.isAt 1 '-' && l.isAt 2 '-' && l.isBlankzAt 3 then
    fetchDocumentIndicator .documentStart
  else if col0 && l.isAt 0 '.' && l.isAt 1 '.' && l.isAt 2 '.' && l.isBlankzAt 3 then
    fetchDocumentIndicator .documentEnd
  else if l.isAt 0 '[' then fetchFlowCollectionStart .flowSequenceStart
  else if l.byteAt 0 == 123 then fetchFlowCollectionStart .flowMappingStart
  else if l.isAt 0 ']' then fetchFlowCollectionEnd .flowSequenceEnd
  else if l.byteAt 0 == 125 then fetchFlowCollectionEnd .flowMappingEnd
  else if l.isAt 0 ',' then fetchFlowEntry
  else if l.isAt 0 '-' && l.isBlankzAt 1 then fetchBlockEntry
  else if l.isAt 0 '?' && (l.flowLevel > 0 || l.isBlankzAt 1) then fetchKey
  else if l.isAt 0 ':' && (l.flowLevel > 0 || l.isBlankzAt 1) then fetchValue
  else if l.isAt 0 '*' then fetchAnchor true
  else if l.isAt 0 '&' then fetchAnchor false
  else if l.isAt 0 '!' then fetchTag
  else if l.isAt 0 '|' && l.flowLevel == 0 then fetchBlockScalar true
  else if l.isAt 0 '>' && l.flowLevel == 0 then fetchBlockScalar false
  else if l.byteAt 0 == apostropheByte then fetchFlowScalar true
  else if l.byteAt 0 == quoteByte then fetchFlowScalar false
  else if startsPlain l then fetchPlainScalar
  else fail l.mark "found character that cannot start any token"

/-- Read on until three tokens wait and no pending key could insert a token before them. -/
def fetchMore : LexM Unit := do
  for _ in [0:(← get).bound + 16] do
    let l ← get
    if l.head + 2 < l.queue.size then
      match l.keys.findIdx? (fun k => k.possible && k.number == l.taken) with
      | none => break
      | some i => if !(← keyValid i) then break
    fetchNextToken
  modify fun l => { l with available := true }

/-- The first token not yet taken. -/
def peek : LexM Token := do
  if !(← get).available then fetchMore
  let l ← get
  return l.queue.getD l.head default

/-- Take the first token. -/
def take : LexM Unit := modify fun l =>
  { l with available := false, taken := l.taken + 1, head := l.head + 1 }

end LexM

/-! ## Reading the text -/

/-- Whether a character may stand in a YAML text: tab, the line breaks, printable ASCII, NEL,
and everything above U+009F but the surrogates and U+FFFE and U+FFFF. -/
def allowedChar (v : Nat) : Bool :=
  v == 9 || v == 10 || v == 13 || (v ≥ 0x20 && v ≤ 0x7E) || v == 0x85 ||
    (v ≥ 0xA0 && v ≤ 0xD7FF) || (v ≥ 0xE000 && v ≤ 0xFFFD) || (v ≥ 0x10000 && v ≤ 0x10FFFF)

/-- Why a text cannot be read as UTF-8 YAML, if it cannot: the first malformed sequence or the
first character that is not allowed. -/
def textFault? (bs : List UInt8) : Option Bytes :=
  go bs (bs.length + 1)
where
  go : List UInt8 → Nat → Option Bytes
    | [], _ => none
    | _, 0 => none
    | b :: rest, fuel + 1 =>
      let n := if b &&& 0x80 == 0 then 1 else if b &&& 0xE0 == 0xC0 then 2
        else if b &&& 0xF0 == 0xE0 then 3 else if b &&& 0xF8 == 0xF0 then 4 else 0
      if n == 0 then some (Bytes.ofString "invalid leading UTF-8 octet")
      else if rest.length < n - 1 then some (Bytes.ofString "incomplete UTF-8 octet sequence")
      else
        let tail := rest.take (n - 1)
        if tail.any (fun t => t &&& 0xC0 != 0x80) then
          some (Bytes.ofString "invalid trailing UTF-8 octet")
        else
          let lead := if n == 1 then b.toNat else if n == 2 then (b &&& 0x1F).toNat
            else if n == 3 then (b &&& 0x0F).toNat else (b &&& 0x07).toNat
          let v := tail.foldl (fun v t => v * 64 + (t &&& 0x3F).toNat) lead
          if !(n == 1 || (n == 2 && v ≥ 0x80) || (n == 3 && v ≥ 0x800) ||
              (n == 4 && v ≥ 0x10000)) then
            some (Bytes.ofString "invalid length of a UTF-8 sequence")
          else if (v ≥ 0xD800 && v ≤ 0xDFFF) || v > 0x10FFFF then
            some (Bytes.ofString "invalid Unicode character")
          else if !allowedChar v then
            some (Bytes.ofString "control characters are not allowed")
          else go (rest.drop (n - 1)) fuel

/-- The sixteen-bit unit of two bytes in the given order. -/
def utf16Unit (littleEndian : Bool) (a b : UInt8) : Nat :=
  if littleEndian then a.toNat + 256 * b.toNat else 256 * a.toNat + b.toNat

/-- The characters of a UTF-16 text, each with the number of units read up to its end, last
first; or why the text cannot be read: a byte left over, a low surrogate with no high one
before it, a high surrogate without a low one after it, or a character that is not allowed.
The first fault in the text is the one reported. -/
def utf16Chars (littleEndian : Bool) : Bytes → List (Nat × Nat) → Nat → Nat →
    Except Bytes (List (Nat × Nat))
  | [], acc, _, _ => .ok acc
  | _, acc, _, 0 => .ok acc
  | [_], _, _, _ + 1 => .error (Bytes.ofString "incomplete UTF-16 character")
  | a :: b :: rest, acc, units, fuel + 1 =>
    let v := utf16Unit littleEndian a b
    let control := Bytes.ofString "control characters are not allowed"
    if v / 1024 == 0xDC00 / 1024 then .error (Bytes.ofString "unexpected low surrogate area")
    else if v / 1024 == 0xD800 / 1024 then
      match rest with
      | c :: d :: more =>
        let w := utf16Unit littleEndian c d
        if w / 1024 != 0xDC00 / 1024 then .error (Bytes.ofString "expected low surrogate area")
        else
          let x := 0x10000 + v % 1024 * 1024 + w % 1024
          if allowedChar x then
            utf16Chars littleEndian more ((x, units + 2) :: acc) (units + 2) fuel
          else .error control
      | _ => .error (Bytes.ofString "incomplete UTF-16 surrogate pair")
    else if allowedChar v then
      utf16Chars littleEndian rest ((v, units + 1) :: acc) (units + 1) fuel
    else .error control

/-- How many bytes of the stream the reader takes at a time, byte order mark included. -/
def fillSize : Nat := 512

/-- A stream made ready for reading: its text as UTF-8 without the byte order mark, and how
many bytes of that text the reader's first fill holds. -/
structure StreamText where
  body : Bytes
  firstFill : Nat

/-- The text of a stream. A leading FF FE or FE FF marks UTF-16, low byte first or high byte
first, which is read as such; anything else must be UTF-8, whose own byte order mark is
dropped. -/
def StreamText.ofBytes (bs : Bytes) : Except Bytes StreamText :=
  let ofUtf16 (littleEndian : Bool) (rest : Bytes) : Except Bytes StreamText := do
    let cs := (← utf16Chars littleEndian rest [] 0 (rest.length + 1)).reverse
    let fill := (cs.filter fun (_, e) => e ≤ (fillSize - 2) / 2).foldl
      (fun n (v, _) => n + (LexM.utf8 v).length) 0
    return ⟨cs.flatMap fun (v, _) => LexM.utf8 v, fill⟩
  match bs with
  | 0xFF :: 0xFE :: rest => ofUtf16 true rest
  | 0xFE :: 0xFF :: rest => ofUtf16 false rest
  | _ =>
    match textFault? bs with
    | some problem => .error problem
    | none =>
      match bs with
      | 0xEF :: 0xBB :: 0xBF :: rest => .ok ⟨rest, fillSize - 3⟩
      | _ => .ok ⟨bs, fillSize⟩

/-- The number of bytes of a UTF-8 sequence with the given first byte. -/
def leadWidth (b : UInt8) : Nat :=
  if b &&& 0x80 == 0 then 1 else if b &&& 0xE0 == 0xC0 then 2
  else if b &&& 0xF0 == 0xE0 then 3 else if b &&& 0xF8 == 0xF0 then 4 else 1

/-- Up to where a line that starts between tokens loses its first character. The lexer drops a
byte order mark at the start of such a line, but it looks for the mark at the front of the
reader's buffer rather than at the reading position. The buffer starts with the text's first
character and moves on when fewer than four characters of the first fill are left. So only a
text that opens with a second mark is touched, and then up to the fourth last character of the
first fill. -/
def StreamText.markLeadsUntil (t : StreamText) : Option Nat :=
  match t.body with
  | 0xEF :: 0xBB :: 0xBF :: _ =>
    let a := ByteArray.mk t.body.toArray
    let fill := min t.firstFill a.size
    let starts := (List.range fill).filter fun i =>
      let b := a.data.getD i 0
      b &&& 0xC0 != 0x80 && i + leadWidth b ≤ fill
    (starts.reverse.drop 3).head?
  | _ => none

/-- A lexer at the start of a stream's text. -/
def Lexer.ofText (t : StreamText) : Lexer :=
  { input := ByteArray.mk t.body.toArray, markLeadsUntil := t.markLeadsUntil }

end ShaderVariants.Yaml
