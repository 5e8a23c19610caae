import ShaderVariants.Starlark.Token
import ShaderVariants.Text.Letter
import ShaderVariants.Text.Quoted
import ShaderVariants.Decimal.Read
/-!
# Cutting a Starlark program into tokens

The lexer reads the program as characters (UTF-8; a stray byte reads as U+FFFD) and gives one
token at a time. A carriage return, alone or before a line feed, ends a line like a line feed.

Blocks are marked by indentation. At the start of each line that is not blank or a comment,
and not inside brackets, the lexer compares the line's indentation column (a tab advances to
the next multiple of eight) with a stack of open columns: a deeper line opens a block
(`indent`), a shallower one closes blocks (`outdent`) until a column on the stack matches, and
a column between two open ones is refused. Line ends inside brackets, blank lines and comment
lines give no token; a backslash right before a line end joins two lines. At the end of the
text, open blocks are closed, after a `newline` when the last line did not end with one.

Strings may be quoted with `'` or `"`, single or tripled, and prefixed with `r` (backslashes
stay as written), `b` (a byte string) or `rb`. Escapes are the usual one-letter ones, octal
`\ooo`, hex `\xhh`, and `\uhhhh`, `\Uhhhhhhhh`; in a text string, octal and hex escapes stand for
ASCII only. Integers may be written in decimal, `0x`, `0o` and `0b` form and have no bound; a
leading zero before other digits is refused. Floats have a point or an exponent.
-/

namespace ShaderVariants.Starlark

/-- The lexer's state: the characters, the reading position and the block structure so far. -/
structure Lexer where
  glyphs : Array Glyph
  index : Nat := 0
  pos : Pos := {}
  /-- How many brackets are open. -/
  depth : Nat := 0
  /-- The open indentation columns, innermost first; the outermost is zero. -/
  indents : List Nat := [0]
  /-- Block tokens still to give: positive for `indent`, negative for `outdent`. -/
  dents : Int := 0
  lineStart : Bool := true

/-- A step of the lexer. -/
abbrev LexM := StateT Lexer (Except SyntaxError)

namespace Lexer

/-- The character `k` places ahead, or zero past the end. -/
def codeAt (l : Lexer) (k : Nat) : Nat :=
  match l.glyphs[l.index + k]? with
  | some g => g.code
  | none => 0

/-- The next character, a carriage return read as a line feed; zero at the end. -/
def peek (l : Lexer) : Nat :=
  let c := l.codeAt 0
  if c == 13 then 10 else c

/-- Whether every character has been read. -/
def atEnd (l : Lexer) : Bool := l.index ≥ l.glyphs.size

/-- The bound on every loop over the text: no loop reads more characters than are left. -/
def bound (l : Lexer) : Nat := l.glyphs.size - l.index + 2

/-- The bytes of the text from character `i` to the reading position. -/
def textFrom (l : Lexer) (i : Nat) : Bytes :=
  (l.glyphs.extract i l.index).toList.flatMap Glyph.bytes

end Lexer

/-! ## Classes of characters -/

/-- An ASCII digit. -/
def isDigitCode (c : Nat) : Bool := 48 ≤ c && c ≤ 57

/-- A hexadecimal digit. -/
def isHexCode (c : Nat) : Bool := isDigitCode c || (65 ≤ c && c ≤ 70) || (97 ≤ c && c ≤ 102)

/-- The value of a hexadecimal digit. -/
def hexCodeValue (c : Nat) : Nat :=
  if 65 ≤ c && c ≤ 70 then c - 55 else if 97 ≤ c && c ≤ 102 then c - 87 else c - 48

/-- A character that may start a name: a letter or `_`. -/
def isNameStart (c : Nat) : Bool := c == 95 || isLetter c

/-- A character that may continue a name. -/
def isNamePart (c : Nat) : Bool := isDigitCode c || isNameStart c

/-- The keywords. -/
def keywords : List String :=
  ["and", "break", "continue", "def", "elif", "else", "for", "if", "in", "lambda", "load",
    "not", "or", "pass", "return", "while"]

/-- Words that are reserved without a meaning. -/
def reservedWords : List String :=
  ["as", "async", "await", "class", "del", "except", "finally", "from", "global", "import", "is",
    "nonlocal", "raise", "try", "with", "yield"]

/-- The token a word is: a keyword, a reserved word, or a name. -/
def wordToken (w : Bytes) : TokenKind :=
  match keywords.find? (fun k => Bytes.ofString k == w) with
  | some k => .keyword k
  | none => if reservedWords.any (fun k => Bytes.ofString k == w) then .illegal else .ident w

/-- A character in single quotes, escaped as in a quoted text, for messages. -/
def quoteChar (c : Nat) : Bytes :=
  let body :=
    if c == 39 || c == 92 then [92, c.toUInt8]
    else if isPrintable c then Glyph.encode c
    else Quoted.control c
  [39] ++ body ++ [39]

/-! ## Escapes -/

/-- The bytes a character stands for in a string. -/
def codeBytes (c : Nat) : Bytes := Glyph.encode c

/-- The text of a list of characters. -/
def codesText (cs : List Nat) : Bytes := cs.flatMap codeBytes

/-- The byte of a one-letter escape. -/
def simpleEscape? (c : Nat) : Option UInt8 :=
  match c with
  | 97 => some 7
  | 98 => some 8
  | 102 => some 12
  | 110 => some 10
  | 114 => some 13
  | 116 => some 9
  | 118 => some 11
  | 92 => some 92
  | 39 => some 39
  | 34 => some 34
  | _ => none

/-- The octal digits of a number. -/
def octalText (n : Nat) : Bytes := (Nat.toDigits 8 n).map fun ch => ch.toNat.toUInt8

/-- Upper-case hex digits of `n`, at least `width` of them. -/
def upperHex (width n : Nat) : Bytes :=
  let ds := (Nat.toDigits 16 n).map fun ch => ch.toUpper.toNat.toUInt8
  List.replicate (width - ds.length) 48 ++ ds

/-- The value of a string literal's body (the part between the quotes): escapes replaced, or
why one is wrong. `bytes` says whether escapes may stand for any byte. -/
def unescape (isBytes : Bool) (body : List Nat) : Except Bytes Bytes :=
  go body [] (body.length + 1)
where
  go : List Nat → Bytes → Nat → Except Bytes Bytes
    | [], acc, _ => .ok acc
    | _, acc, 0 => .ok acc
    | c :: rest, acc, fuel + 1 =>
      if c != 92 then go rest (acc ++ codeBytes c) fuel
      else match rest with
        | [] => .error (Bytes.ofString "truncated escape sequence \\")
        | d :: more =>
          if d == 10 then go more acc fuel
          else match simpleEscape? d with
          | some b => go more (acc ++ [b]) fuel
          | none =>
            if 48 ≤ d && d ≤ 55 then
              let ds := (more.take 2).takeWhile (fun x => 48 ≤ x && x ≤ 55)
              let n := (d :: ds).foldl (fun n x => n * 8 + (x - 48)) 0
              let more := more.drop ds.length
              if !isBytes && n > 127 then
                .error (Bytes.ofString "non-ASCII octal escape \\" ++ octalText n ++
                  Bytes.ofString " (use \\u" ++ upperHex 4 n ++
                  Bytes.ofString " for the UTF-8 encoding of U+" ++ upperHex 4 n ++
                  Bytes.ofString ")")
              else if n ≥ 256 then
                let o := octalText n
                .error (Bytes.ofString "invalid escape sequence \\" ++
                  List.replicate (3 - o.length) 48 ++ o)
              else go more (acc ++ [n.toUInt8]) fuel
            else if d == 120 then
              if more.length < 2 then
                .error (Bytes.ofString "truncated escape sequence " ++ codesText (c :: rest))
              else
                let hs := more.take 2
                if !hs.all isHexCode then
                  .error (Bytes.ofString "invalid escape sequence " ++ codesText (c :: d :: hs))
                else
                  let n := hs.foldl (fun n x => n * 16 + hexCodeValue x) 0
                  if !isBytes && n > 127 then
                    .error (Bytes.ofString "non-ASCII hex escape " ++ codesText (c :: d :: hs) ++
                      Bytes.ofString " (use \\u" ++ upperHex 4 n ++
                      Bytes.ofString " for the UTF-8 encoding of U+" ++ upperHex 4 n ++
                      Bytes.ofString ")")
                  else go (more.drop 2) (acc ++ [n.toUInt8]) fuel
            else if d == 117 || d == 85 then
              let size := if d == 85 then 8 else 4
              if more.length < size then
                .error (Bytes.ofString "truncated escape sequence " ++ codesText (c :: rest))
              else
                let hs := more.take size
                let shown := codesText (c :: d :: hs)
                if !hs.all isHexCode then
                  .error (Bytes.ofString "invalid escape sequence " ++ shown)
                else
                  let n := hs.foldl (fun n x => n * 16 + hexCodeValue x) 0
                  if n > 0x10FFFF then
                    .error (Bytes.ofString "code point out of range: " ++ shown ++
                      Bytes.ofString " (max \\U" ++ Quoted.hex 8 n ++ Bytes.ofString ")")
                  else if 0xD800 ≤ n && n < 0xE000 then
                    .error (Bytes.ofString "invalid Unicode code point U+" ++ upperHex 4 n)
                  else go (more.drop size) (acc ++ codeBytes n) fuel
            else
              let first := (codeBytes d).headD 0
              .error (Bytes.ofString "invalid escape sequence \\" ++ codeBytes first.toNat)

/-- The value of a whole string literal as read (prefix and quotes included) and whether it is
a byte string, or why it is wrong. -/
def unquote (raw : List Nat) : Except Bytes (Bytes × Bool) :=
  let (isRaw, raw) := match raw with
    | 114 :: r => (true, r)
    | r => (false, r)
  let (isBytes, raw) := match raw with
    | 98 :: r => (true, r)
    | r => (false, r)
  let q := raw.headD 0
  let n := raw.length
  let triple := n ≥ 6 && raw[1]? == some q && raw[2]? == some q && raw.take 3 == raw.drop (n - 3)
  let body := if triple then (raw.drop 3).take (n - 6) else (raw.drop 1).take (n - 2)
  if isRaw then .ok (codesText body, isBytes)
  else (unescape isBytes body).map (·, isBytes)

/-! ## Reading -/

namespace LexM

/-- Refuse the text at a place. -/
def fail {α : Type} (p : Pos) (msg : String) : LexM α :=
  throw { pos := p, message := Bytes.ofString msg }

/-- Read one character: a carriage return and a following line feed are one line end. -/
def read : LexM Nat := do
  let l ← get
  match l.glyphs[l.index]? with
  | none => return 0
  | some g =>
    let c := g.code
    if c == 13 || c == 10 then
      let skip := if c == 13 && l.codeAt 1 == 10 then 2 else 1
      set { l with index := l.index + skip, pos := { line := l.pos.line + 1, col := 1 } }
      return 10
    else
      set { l with index := l.index + 1, pos := { l.pos with col := l.pos.col + 1 } }
      return c

/-- Read spaces and tabs at the start of a line: the column they reach. -/
def leadingColumn : LexM Nat := do
  let mut col := 0
  for _ in [0:(← get).bound] do
    let l ← get
    let c := l.peek
    if c == 32 then
      col := col + 1
      discard read
    else if c == 9 then
      col := col + (8 - (l.pos.col - 1) % 8)
      discard read
    else break
  return col

/-- Compare a line's indentation with the open blocks: open one or close some. -/
def adjustBlocks (col : Nat) : LexM Unit := do
  let l ← get
  let cur := l.indents.headD 0
  if col > cur then
    set { l with dents := l.dents + 1, indents := col :: l.indents }
  else if col < cur then
    let closed := (l.indents.takeWhile (col < ·)).length
    let rest := l.indents.drop closed
    set { l with dents := l.dents - closed, indents := rest }
    if rest.headD 0 != col then
      fail l.pos "unindent does not match any outer indentation level"

/-- Skip spaces and tabs. -/
def skipBlanks : LexM Unit := do
  for _ in [0:(← get).bound] do
    let c := (← get).peek
    if c == 32 || c == 9 then discard read else break

/-- Skip a comment up to, not including, its line end. -/
def skipComment : LexM Unit := do
  for _ in [0:(← get).bound] do
    let c := (← get).peek
    if c != 0 && c != 10 then discard read else break

/-- Read a string literal whose opening quote is next; the token began at `tokStart`
(character `tokIndex`), before any prefix. -/
def scanString (tokStart : Pos) (tokIndex : Nat) (q : Nat) : LexM TokenKind := do
  let l ← get
  let start := l.pos
  let triple := l.codeAt 0 == q && l.codeAt 1 == q && l.codeAt 2 == q
  let mut raw : Array Nat := ((l.glyphs.extract tokIndex l.index).toList.map Glyph.code).toArray
  raw := raw.push (← read)
  if triple then
    raw := raw.push (← read)
    raw := raw.push (← read)
  let mut count := 0
  for _ in [0:(← get).bound] do
    if (← get).atEnd then fail tokStart "unexpected EOF in string"
    let c ← read
    raw := raw.push c
    if triple then
      if c == q then
        count := count + 1
        if count == 3 then break
      else count := 0
    else
      if c == q then break
      if c == 10 then fail tokStart "unexpected newline in string"
    if c == 92 then
      if (← get).atEnd then fail tokStart "unexpected EOF in string"
      raw := raw.push (← read)
  match unquote raw.toList with
  | .ok (s, isBytes) => return if isBytes then .bytes s else .string s
  | .error msg => throw { pos := start, message := msg }

/-- Read digits of a class. -/
def readWhile (p : Nat → Bool) : LexM Unit := do
  for _ in [0:(← get).bound] do
    if p (← get).peek then discard read else break

/-- The value of an integer literal's text, if it is one. Decimal and hexadecimal literals may
be of any size; octal and binary ones must stay below 2^63. -/
def intValue? (s : Bytes) : Option Int :=
  let digits (base : Nat) (ds : Bytes) : Option Int :=
    if ds.isEmpty then none
    else ds.foldl (fun acc b => acc.bind fun n =>
      let v := hexCodeValue b.toNat
      if isHexCode b.toNat && v < base then some (n * base + v) else none) (some 0)
  match s with
  | 48 :: x :: rest =>
    if x == 120 || x == 88 then digits 16 rest
    else if x == 111 || x == 79 then (digits 8 rest).filter (· < Nat.pow 2 63)
    else if x == 98 || x == 66 then (digits 2 rest).filter (· < Nat.pow 2 63)
    else digits 8 (x :: rest)
  | _ => digits 10 s

/-- Read a number, or the `.` operator, whose first character `c` is next. -/
def scanNumber (tokIndex : Nat) (c : Nat) : LexM TokenKind := do
  let start := (← get).pos
  let mut fraction := false
  let mut exponent := false
  if c == 46 then
    discard read
    if !isDigitCode (← get).peek then return .punct "."
    fraction := true
  else if c == 48 then
    discard read
    let d := (← get).peek
    if d == 46 then fraction := true
    else if d == 120 || d == 88 then
      discard read
      if !isHexCode (← get).peek then fail start "invalid hex literal"
      readWhile isHexCode
    else if d == 111 || d == 79 then
      discard read
      if !(fun x => 48 ≤ x && x ≤ 55) (← get).peek then fail (← get).pos "invalid octal literal"
      readWhile fun x => 48 ≤ x && x ≤ 55
    else if d == 98 || d == 66 then
      discard read
      if !(fun x => x == 48 || x == 49) (← get).peek then fail (← get).pos "invalid binary literal"
      readWhile fun x => x == 48 || x == 49
    else
      let mark := (← get).index
      readWhile isDigitCode
      let l ← get
      let ds := l.textFrom mark
      let e := l.peek
      if e == 46 then fraction := true
      else if e == 101 || e == 69 then exponent := true
      else if ds.all (fun b => b ≤ 55) && ds.any (· != 48) then
        throw { pos := l.pos,
                message := Bytes.ofString "obsolete form of octal literal; use 0o" ++ ds }
  else
    readWhile isDigitCode
    let e := (← get).peek
    if e == 46 then fraction := true
    else if e == 101 || e == 69 then exponent := true
  if fraction then
    discard read
    readWhile isDigitCode
    let e := (← get).peek
    if e == 101 || e == 69 then exponent := true
  if exponent then
    discard read
    let s := (← get).peek
    if s == 43 || s == 45 then
      discard read
      if !isDigitCode (← get).peek then fail (← get).pos "invalid float literal"
    readWhile isDigitCode
  let l ← get
  let text := l.textFrom tokIndex
  if fraction || exponent then
    match Decimal.readFloat? text with
    | some x => return .float x
    | none => fail l.pos "invalid float literal"
  else
    match intValue? text with
    | some n => return .int n
    | none => fail start "invalid int literal"

/-- Read an operator whose first character `c` is next. -/
def scanOperator (c : Nat) : LexM TokenKind := do
  let start := (← get).pos
  let ch := Char.ofNat c
  if "=<>!+-%/&|^~".toList.contains ch then
    discard read
    if (← get).peek == 61 then
      match ch with
      | '<' => discard read; return .punct "<="
      | '>' => discard read; return .punct ">="
      | '=' => discard read; return .punct "=="
      | '!' => discard read; return .punct "!="
      | '+' => discard read; return .punct "+="
      | '-' => discard read; return .punct "-="
      | '/' => discard read; return .punct "/="
      | '%' => discard read; return .punct "%="
      | '&' => discard read; return .punct "&="
      | '|' => discard read; return .punct "|="
      | '^' => discard read; return .punct "^="
      | _ => pure ()
    match ch with
    | '=' => return .punct "="
    | '<' =>
      if (← get).peek == 60 then
        discard read
        if (← get).peek == 61 then
          discard read
          return .punct "<<="
        return .punct "<<"
      return .punct "<"
    | '>' =>
      if (← get).peek == 62 then
        discard read
        if (← get).peek == 61 then
          discard read
          return .punct ">>="
        return .punct ">>"
      return .punct ">"
    | '!' => fail start "unexpected input character '!'"
    | '/' =>
      if (← get).peek == 47 then
        discard read
        if (← get).peek == 61 then
          discard read
          return .punct "//="
        return .punct "//"
      return .punct "/"
    | _ => return .punct ch.toString
  else if c == 58 || c == 59 then
    discard read
    return .punct ch.toString
  else if c == 42 then
    discard read
    let d := (← get).peek
    if d == 42 then
      discard read
      return .punct "**"
    if d == 61 then
      discard read
      return .punct "*="
    return .punct "*"
  else
    throw { pos := start,
            message := Bytes.ofString "unexpected input character " ++ quoteChar c }

/-- Read the token that starts at the next character, which is not blank. -/
def scanToken (c : Nat) : LexM TokenKind := do
  let l ← get
  let tokStart := l.pos
  let tokIndex := l.index
  if c == 44 then
    discard read
    return .punct ","
  if c == 34 || c == 39 then return ← scanString tokStart tokIndex c
  if isNameStart c then
    let c1 := l.codeAt 1
    let c2 := l.codeAt 2
    if (c == 114 || c == 98) && (c1 == 34 || c1 == 39) then
      discard read
      return ← scanString tokStart tokIndex c1
    if c == 114 && c1 == 98 && (c2 == 34 || c2 == 39) then
      discard read
      discard read
      return ← scanString tokStart tokIndex c2
    readWhile isNamePart
    return wordToken ((← get).textFrom tokIndex)
  if c == 91 || c == 40 || c == 123 then
    modify fun l => { l with depth := l.depth + 1 }
    discard read
    return .punct (Char.ofNat c).toString
  if c == 93 || c == 41 || c == 125 then
    if l.depth == 0 then
      throw { pos := l.pos, message := Bytes.ofString "unexpected " ++ quoteChar c }
    modify fun l => { l with depth := l.depth - 1 }
    discard read
    return .punct (Char.ofNat c).toString
  if isDigitCode c || c == 46 then return ← scanNumber tokIndex c
  scanOperator c

/-- The next token. Blank lines, comments, line ends inside brackets and joined lines are
passed over, each pass reading at least one character, so `fuel` above the characters left
suffices. -/
def nextToken : Nat → LexM Token
  | 0 => do fail (← get).pos "unexpected end of input"
  | fuel + 1 => do
    let saved := (← get).lineStart
    let mut blank := false
    if saved then
      modify fun l => { l with lineStart := false }
      let col ← leadingColumn
      let c := (← get).peek
      blank := c == 35 || c == 10 || c == 0
      if !blank && (← get).depth == 0 then adjustBlocks col
    let l ← get
    if l.dents < 0 then
      set { l with dents := l.dents + 1 }
      return ⟨.outdent, l.pos, l.pos⟩
    if l.dents > 0 then
      set { l with dents := l.dents - 1 }
      return ⟨.indent, l.pos, l.pos⟩
    skipBlanks
    if (← get).peek == 35 then skipComment
    let l ← get
    let c := l.peek
    if c == 10 then
      modify fun l => { l with lineStart := true }
      if blank || l.depth > 0 then
        discard read
        return ← nextToken fuel
      discard read
      return ⟨.newline, l.pos, (← get).pos⟩
    if c == 0 then
      if l.indents.length > 1 then
        if saved then
          set { l with dents := 1 - (l.indents.length : Int), indents := [0] }
          return ← nextToken fuel
        set { l with lineStart := true }
        return ⟨.newline, l.pos, l.pos⟩
      return ⟨.eof, l.pos, l.pos⟩
    if c == 92 then
      discard read
      if (← get).peek != 10 then fail (← get).pos "stray backslash in program"
      discard read
      return ← nextToken fuel
    let kind ← scanToken c
    return ⟨kind, l.pos, (← get).pos⟩

end LexM

/-- Tokens from a lexer state until the end of the text, or until a fault: the tokens read
before it, and the fault. -/
def Lexer.run (l : Lexer) (acc : Array Token) : Nat → Array Token × Option SyntaxError
  | 0 => (acc, none)
  | fuel + 1 =>
    match (LexM.nextToken l.bound).run l with
    | .error e => (acc, some e)
    | .ok (t, l') =>
      if t.kind.isEof then (acc.push t, none) else Lexer.run l' (acc.push t) fuel

/-- The tokens of a program text, ending with `eof`, or the tokens before a fault and the
fault. -/
def Token.scan (text : Bytes) : Array Token × Option SyntaxError :=
  let glyphs := (Glyph.decode text).toArray
  Lexer.run { glyphs } #[] (3 * glyphs.size + 8)

end ShaderVariants.Starlark
