import ShaderVariants.Toml.Expression
import ShaderVariants.Text.Utf8
/-!
# Reading TOML expressions

The reader takes a document's bytes one expression at a time (`Expression.next?`), so that a
problem in a later line is met only after the earlier lines were used. Each reading step
returns what it read and the rest of the text, or the message of a refusal.

What the reader accepts:

* blanks are spaces and tabs; a line ends with `\n` or `\r\n`; a comment runs from `#` to the
  line's end and holds no control character but tab;
* a key is dotted parts, each bare (`A-Z a-z 0-9 - _`) or a string; blanks may stand around
  the dots;
* strings are basic `"…"` with escapes, literal `'…'`, and their multi-line forms `"""…"""`
  and `'''…'''`, where a newline right after the opening quotes is dropped and, in the basic
  form, a backslash at a line's end joins it to the next non-blank text; a string holds
  well-formed UTF-8 and no control character but tab (and newlines in the multi-line forms);
* a number is read as far as it runs over digits, signs, underscores, points and exponent
  marks, or a base prefix with its digits; a text starting with four digits and `-`, or two
  digits and `:`, is a date or time, read as far as date and time characters run;
* arrays may spread over lines, hold comments and end with a comma; inline tables stay on
  one line.
-/

namespace ShaderVariants.Toml

/-- Refuse with a message. -/
def refuse {α : Type} (msg : String) : Except Bytes α := .error (Bytes.ofString msg)

/-! ## Characters -/

/-- Spaces and tabs. -/
def isBlank (c : UInt8) : Bool := c == 32 || c == 9

/-- The text after its leading blanks. -/
def skipBlanks (b : Bytes) : Bytes := b.dropWhile isBlank

/-- ASCII digits. -/
def isDigit (c : UInt8) : Bool := 48 ≤ c && c ≤ 57

/-- The bytes a bare key is made of. -/
def isBareKeyByte (c : UInt8) : Bool :=
  (65 ≤ c && c ≤ 90) || (97 ≤ c && c ≤ 122) || isDigit c || c == 45 || c == 95

/-- Whether an ASCII byte may stand in a string or comment as it is: all but the control
characters other than tab, line feed and carriage return. -/
def asciiAllowed (c : UInt8) : Bool := (c ≥ 32 && c != 127) || c == 9 || c == 10 || c == 13

/-- The length of the character a text starts with, if it is well-formed UTF-8 and allowed;
zero otherwise. -/
def charLength : Bytes → Nat
  | [] => 0
  | c :: r =>
    if c < 0x80 then (if asciiAllowed c then 1 else 0)
    else
      match Glyph.lead c r with
      | some (_, n) => n + 1
      | none => 0

/-- Whether every character of a text is well-formed and allowed. -/
def allowedText (s : Bytes) : Bool :=
  go s s.length
where
  go : Bytes → Nat → Bool
    | [], _ => true
    | _, 0 => true
    | s, fuel + 1 =>
      let n := charLength s
      n != 0 && go (s.drop n) fuel

/-- The upper-case hex digits of `n`, at least `width` of them. -/
def upperHex (width n : Nat) : String :=
  let digits := Nat.toDigits 16 n
  let digits := List.replicate (width - digits.length) '0' ++ digits
  String.ofList (digits.map Char.toUpper)

/-- A byte named as a character: `U+` and four hex digits, then the character in quotes when
it is printable. -/
def runeText (c : UInt8) : Bytes :=
  let n := c.toNat
  let printable := (0x20 ≤ n && n ≤ 0x7E) || (0xA1 ≤ n && n != 0xAD)
  Bytes.ofString ("U+" ++ upperHex 4 n) ++
    (if printable then Bytes.ofString " '" ++ Glyph.encode n ++ Bytes.ofString "'" else [])

/-! ## Lines and comments -/

/-- Skip a comment (the text starts at `#`); the rest starts at the line's end. -/
def skipComment (b : Bytes) : Except Bytes Bytes :=
  go (b.drop 1) b.length
where
  go : Bytes → Nat → Except Bytes Bytes
    | [], _ => .ok []
    | 10 :: r, _ => .ok (10 :: r)
    | 13 :: r, _ =>
      match r with
      | 10 :: _ => .ok r
      | _ => refuse "invalid character in comment"
    | s, 0 => .ok s
    | s, fuel + 1 =>
      let n := charLength s
      if n == 0 then refuse "invalid character in comment" else go (s.drop n) fuel

/-- Read a line's end. -/
def newline : Bytes → Except Bytes Bytes
  | [] => .ok []
  | 10 :: r => .ok r
  | [13] => refuse "windows new line expected"
  | 13 :: 10 :: r => .ok r
  | 13 :: _ => refuse "windows new line should be \\r\\n"
  | c :: _ => .error (Bytes.ofString "expected newline but got " ++ runeText c)

/-- Skip blanks, comments and line ends, as arrays allow between their items. -/
def skipBlankLines (b : Bytes) : Except Bytes Bytes :=
  go b (b.length + 1)
where
  go (b : Bytes) : Nat → Except Bytes Bytes
    | 0 => .ok b
    | fuel + 1 => do
      let b := skipBlanks b
      let b ← match b with
        | 35 :: _ => skipComment b
        | _ => pure b
      match b with
      | 10 :: _ | 13 :: _ => go (← newline b) fuel
      | _ => return b

/-- Read one expected byte. -/
def expectByte (x : UInt8) : Bytes → Except Bytes Bytes
  | [] => .error (Bytes.ofString "expected character " ++ [x] ++
      Bytes.ofString " but the document ended here")
  | c :: r => if c == x then .ok r else .error (Bytes.ofString "expected character " ++ [x])

/-! ## Strings -/

/-- Read a `\u` or `\U` escape's code point from its `n` hex digits. -/
def hexRune (n : Nat) (s : Bytes) : Except Bytes Nat := do
  let s := s.take n
  if s.length < n then
    refuse ("unicode point needs " ++ toString n ++ " character, not " ++ toString s.length)
  let mut r := 0
  for c in s do
    let d ← if isDigit c then pure (c.toNat - 48)
      else if 97 ≤ c && c ≤ 102 then pure (c.toNat - 87)
      else if 65 ≤ c && c ≤ 70 then pure (c.toNat - 55)
      else refuse "non-hex character"
    r := r * 16 + d
  if r > 0x10FFFF || (0xD800 ≤ r && r < 0xE000) then
    refuse "escape sequence is invalid Unicode code point"
  return r

/-- Whether a backslash ends its line: only blanks stand between it and the line's end. -/
def endsLine (s : Bytes) : Bool :=
  match skipBlanks s with
  | 10 :: _ | 13 :: 10 :: _ => true
  | _ => false

/-- Resolve the escapes of a string's body. `tail` is what follows the body and is visible to
a `\u` or `\U` escape that runs past it; `multiline` lets a backslash at a line's end join the
line to the next non-blank text. -/
def unescape (tail : Bytes) (multiline : Bool) : Nat → Bytes → Except Bytes Bytes
  | 0, _ => .ok []
  | _, [] => .ok []
  | fuel + 1, 92 :: rest =>
    if multiline && endsLine rest then
      unescape tail multiline fuel (rest.dropWhile fun c => isBlank c || c == 10 || c == 13)
    else
      match rest with
      | [] => .ok []
      | c :: more =>
        let simple (x : UInt8) : Except Bytes Bytes :=
          (unescape tail multiline fuel more).map (x :: ·)
        let code (n : Nat) : Except Bytes Bytes := do
          let cp ← hexRune n (more ++ tail)
          return Glyph.encode cp ++ (← unescape tail multiline fuel (more.drop n))
        if c == 34 || c == 92 then simple c
        else if c == 98 then simple 8
        else if c == 102 then simple 12
        else if c == 110 then simple 10
        else if c == 114 then simple 13
        else if c == 116 then simple 9
        else if c == 117 then code 4
        else if c == 85 then code 8
        else .error (Bytes.ofString "invalid escaped character " ++ runeText c)
  | fuel + 1, s@(c :: _) =>
    let n := charLength s
    if n == 0 then .error (Bytes.ofString "invalid character " ++ runeText c)
    else (unescape tail multiline fuel (s.drop n)).map (s.take n ++ ·)

/-- Find the end of a basic string (the text starts at its quote): its body, whether the body
holds an escape, and the rest. -/
def scanBasic (b : Bytes) : Except Bytes ((Bytes × Bool) × Bytes) :=
  go [] false (b.drop 1) b.length
where
  go (acc : Bytes) (escaped : Bool) : Bytes → Nat → Except Bytes ((Bytes × Bool) × Bytes)
    | 34 :: r, _ => .ok ((acc, escaped), r)
    | 10 :: _, _ | 13 :: _, _ => refuse "basic strings cannot have new lines"
    | [92], _ => refuse "need a character after \\"
    | 92 :: c :: r, fuel + 1 => go (acc ++ [92, c]) true r fuel
    | c :: r, fuel + 1 => go (acc ++ [c]) escaped r fuel
    | _, _ => refuse "basic string not terminated by \""

/-- Read a basic string `"…"`: its value and the rest. -/
def basicString (b : Bytes) : Except Bytes (Bytes × Bytes) := do
  let ((body, escaped), rest) ← scanBasic b
  if !escaped then
    if allowedText body then return (body, rest) else refuse "invalid UTF-8"
  return (← unescape [] false (body.length + 1) body, rest)

/-- Read a literal string `'…'`: its value and the rest. -/
def literalString (b : Bytes) : Except Bytes (Bytes × Bytes) :=
  go [] (b.drop 1) b.length
where
  go (acc : Bytes) : Bytes → Nat → Except Bytes (Bytes × Bytes)
    | 39 :: r, _ => .ok (acc, r)
    | 10 :: _, _ | 13 :: _, _ => refuse "literal strings cannot have new lines"
    | [], _ | _, 0 => refuse "unterminated literal string"
    | s, fuel + 1 =>
      let n := charLength s
      if n == 0 then refuse "invalid character" else go (acc ++ s.take n) (s.drop n) fuel

/-- A multi-line string's body without the newline right after its opening quotes. -/
def dropFirstNewline : Bytes → Bytes
  | 10 :: r => r
  | 13 :: 10 :: r => r
  | s => s

/-- Find the end of a multi-line basic string (the text starts at its three quotes): its body,
whether it holds an escape, and the rest. Up to two quotes right before the closing three
belong to the body. -/
def scanMultiBasic (b : Bytes) : Except Bytes ((Bytes × Bool) × Bytes) :=
  go [] false (b.drop 3) b.length
where
  go (acc : Bytes) (escaped : Bool) : Bytes → Nat → Except Bytes ((Bytes × Bool) × Bytes)
    | 34 :: 34 :: 34 :: r, _ =>
      match r with
      | 34 :: 34 :: 34 :: _ => refuse "\"\"\" not allowed in multiline basic string"
      | 34 :: 34 :: r' => .ok ((acc ++ [34, 34], escaped), r')
      | 34 :: r' => .ok ((acc ++ [34], escaped), r')
      | _ => .ok ((acc, escaped), r)
    | [92], _ => refuse "need a character after \\"
    | [13], _ => refuse "need a \\n after \\r"
    | 92 :: c :: r, fuel + 1 => go (acc ++ [92, c]) true r fuel
    | 13 :: 10 :: r, fuel + 1 => go (acc ++ [13, 10]) escaped r fuel
    | 13 :: _, _ => refuse "need a \\n after \\r"
    | c :: r, fuel + 1 => go (acc ++ [c]) escaped r fuel
    | _, _ => refuse "multiline basic string not terminated by \"\"\""

/-- Read a multi-line basic string: its value and the rest. -/
def multiBasicString (b : Bytes) : Except Bytes (Bytes × Bytes) := do
  let ((body, escaped), rest) ← scanMultiBasic b
  let body := dropFirstNewline body
  if !escaped then
    if allowedText body then return (body, rest) else refuse "invalid UTF-8"
  return (← unescape [34, 34, 34] true (body.length + 1) body, rest)

/-- Read a multi-line literal string (the text starts at its three apostrophes): its value and
the rest. -/
def multiLiteralString (b : Bytes) : Except Bytes (Bytes × Bytes) := do
  let (body, rest) ← go [] (b.drop 3) b.length
  return (dropFirstNewline body, rest)
where
  go (acc : Bytes) : Bytes → Nat → Except Bytes (Bytes × Bytes)
    | 39 :: 39 :: 39 :: r, _ =>
      match r with
      | 39 :: 39 :: 39 :: _ => refuse "''' not allowed in multiline literal string"
      | 39 :: 39 :: r' => .ok (acc ++ [39, 39], r')
      | 39 :: r' => .ok (acc ++ [39], r')
      | _ => .ok (acc, r)
    | [13], _ => refuse "need a \\n after \\r"
    | 13 :: 10 :: r, fuel + 1 => go (acc ++ [13, 10]) r fuel
    | 13 :: _, _ => refuse "need a \\n after \\r"
    | [], _ | _, 0 => refuse "multiline literal string not terminated by '''"
    | s, fuel + 1 =>
      let n := charLength s
      if n == 0 then refuse "invalid character" else go (acc ++ s.take n) (s.drop n) fuel

/-- Read a string of any of the four forms (the text starts at its quote). -/
def string (b : Bytes) : Except Bytes (Bytes × Bytes) :=
  match b with
  | 34 :: 34 :: 34 :: _ => multiBasicString b
  | 39 :: 39 :: 39 :: _ => multiLiteralString b
  | 39 :: _ => literalString b
  | _ => basicString b

/-! ## Keys -/

/-- Read one part of a key: bare, or a basic or literal string. -/
def keyPart (b : Bytes) : Except Bytes (Bytes × Bytes) :=
  match b with
  | [] => refuse "expected key but found none"
  | 39 :: _ => literalString b
  | 34 :: _ => basicString b
  | c :: _ =>
    if isBareKeyByte c then .ok (b.takeWhile isBareKeyByte, b.dropWhile isBareKeyByte)
    else .error (Bytes.ofString "invalid character at start of key: " ++ Glyph.encode c.toNat)

/-- Read a dotted key; the rest starts after the blanks that follow it. -/
def key (b : Bytes) : Except Bytes (Key × Bytes) := do
  let (k, rest) ← keyPart b
  go [k] rest rest.length
where
  go (acc : Key) (b : Bytes) : Nat → Except Bytes (Key × Bytes)
    | 0 => .ok (acc, skipBlanks b)
    | fuel + 1 =>
      match skipBlanks b with
      | 46 :: r => do
        let (k, rest) ← keyPart (skipBlanks r)
        go (acc ++ [k]) rest fuel
      | r => .ok (acc, r)

/-! ## Numbers and moments -/

/-- Whether a text starts with a word. -/
def startsWith (b : Bytes) (w : String) : Bool := b.take w.utf8ByteSize == Bytes.ofString w

/-- Read a number as far as it runs over digits, signs, underscores, points and exponent
marks, with a final `inf` or `nan`. -/
def plainNumber (b : Bytes) : Except Bytes (Literal × Bytes) :=
  go 0 false b
where
  go (i : Nat) (isFloat : Bool) : Bytes → Except Bytes (Literal × Bytes)
    | [] => finish i isFloat
    | c :: r =>
      if isDigit c || c == 43 || c == 45 || c == 95 then go (i + 1) isFloat r
      else if c == 46 || c == 101 || c == 69 then go (i + 1) true r
      else if c == 105 then
        if startsWith (c :: r) "inf" then .ok (.float (b.take (i + 3)), b.drop (i + 3))
        else refuse "unexpected character 'i' while scanning for a number"
      else if c == 110 then
        if startsWith (c :: r) "nan" then .ok (.float (b.take (i + 3)), b.drop (i + 3))
        else refuse "unexpected character 'n' while scanning for a number"
      else finish i isFloat
  finish (i : Nat) (isFloat : Bool) : Except Bytes (Literal × Bytes) :=
    if i == 0 then refuse "incomplete number"
    else .ok (if isFloat then .float (b.take i) else .integer (b.take i), b.drop i)

/-- Read a number: a base prefix (`0x`, `0o`, `0b`) and its digits, a lone leading `0`
before another digit, or a plain number. -/
def number (b : Bytes) : Except Bytes (Literal × Bytes) :=
  match b with
  | 48 :: p :: _ :: _ =>
    if p == 46 || p == 101 || p == 69 then plainNumber b
    else
      let valid (c : UInt8) : Bool :=
        if p == 120 then isDigit c || (97 ≤ c && c ≤ 102) || (65 ≤ c && c ≤ 70) || c == 95
        else if p == 111 then (48 ≤ c && c ≤ 55) || c == 95
        else (c == 48 || c == 49 || c == 95)
      if p == 120 || p == 111 || p == 98 then
        let n := 2 + ((b.drop 2).takeWhile valid).length
        .ok (.integer (b.take n), b.drop n)
      else .ok (.integer [48], b.drop 1)
  | _ => plainNumber b

/-- Read a date or time as far as date and time characters run; one space may stand between a
date and a time. Its kind follows from what was seen: a date part, a time part, an offset. -/
def moment (b : Bytes) : Literal × Bytes :=
  let (n, hasDate, hasTime, hasZone) := go 0 false false false false b
  let kind : Moment :=
    if hasTime then
      if hasDate then (if hasZone then .offsetDateTime else .localDateTime) else .localTime
    else .localDate
  (.moment kind (b.take n), b.drop n)
where
  go (i : Nat) (hasDate hasTime hasZone seenSpace : Bool) : Bytes → Nat × Bool × Bool × Bool
    | [] => (i, hasDate, hasTime, hasZone)
    | c :: r =>
      if isDigit c then go (i + 1) hasDate hasTime hasZone seenSpace r
      else if c == 45 then go (i + 1) true hasTime (hasZone || i ≥ 8) seenSpace r
      else if c == 84 || c == 116 || c == 58 || c == 46 then
        go (i + 1) hasDate true hasZone seenSpace r
      else if c == 43 || c == 90 || c == 122 then go (i + 1) hasDate hasTime true seenSpace r
      else if c == 32 then
        match r with
        | d :: r' =>
          if !seenSpace && isDigit d then
            match r' with
            | [] => (i + 2, hasDate, true, hasZone)
            | _ :: r'' => go (i + 3) hasDate true hasZone true r''
          else (i, hasDate, hasTime, hasZone)
        | [] => (i, hasDate, hasTime, hasZone)
      else (i, hasDate, hasTime, hasZone)

/-- Read a number, a date or time, `inf` or `nan`. -/
def numberOrMoment (b : Bytes) : Except Bytes (Literal × Bytes) :=
  match b with
  | 105 :: _ =>
    if startsWith b "inf" then .ok (.float (b.take 3), b.drop 3) else refuse "expected 'inf'"
  | 110 :: _ =>
    if startsWith b "nan" then .ok (.float (b.take 3), b.drop 3) else refuse "expected 'nan'"
  | 43 :: _ | 45 :: _ => number b
  | _ =>
    if b.length < 3 then number b
    else
      let lead := (b.take 5).zipIdx
      match lead.find? (fun (c, _) => !isDigit c) with
      | some (c, i) =>
        if (i == 2 && c == 58) || (i == 4 && c == 45) then .ok (moment b) else number b
      | none => number b

/-! ## Values and expressions -/

mutual

/-- Read a value. -/
def value : Nat → Bytes → Except Bytes (Literal × Bytes)
  | 0, _ => refuse "document nested too deeply"
  | fuel + 1, b =>
    match b with
    | [] => refuse "expected value, not eof"
    | 34 :: _ | 39 :: _ => do
      let (s, rest) ← string b
      return (.string s, rest)
    | 116 :: _ =>
      if startsWith b "true" then .ok (.bool true, b.drop 4) else refuse "expected 'true'"
    | 102 :: _ =>
      if startsWith b "false" then .ok (.bool false, b.drop 5) else refuse "expected 'false'"
    | 91 :: r => arrayItems fuel [] true r
    | 123 :: r => tableEntries fuel [] true r
    | _ => numberOrMoment b

/-- Read the rest of an array after `[` and the items read so far. -/
def arrayItems : Nat → List Literal → Bool → Bytes → Except Bytes (Literal × Bytes)
  | 0, _, _, _ => refuse "document nested too deeply"
  | fuel + 1, items, first, b =>
    match b with
    | [] => do
      let rest ← expectByte 93 b
      return (.array items, rest)
    | _ => do
      let b ← skipBlankLines b
      match b with
      | [] => refuse "array is incomplete"
      | 93 :: rest => return (.array items, rest)
      | _ =>
        let b ← match b with
          | 44 :: r =>
            if first then refuse "array cannot start with comma" else skipBlankLines r
          | _ => if first then pure b else refuse "array elements must be separated by commas"
        match b with
        | 93 :: rest => return (.array items, rest)
        | _ =>
          let (v, rest) ← value fuel b
          let rest ← skipBlankLines rest
          arrayItems fuel (items ++ [v]) false rest

/-- Read the rest of an inline table after `{` and the entries read so far. -/
def tableEntries : Nat → List (Key × Literal) → Bool → Bytes → Except Bytes (Literal × Bytes)
  | 0, _, _, _ => refuse "document nested too deeply"
  | fuel + 1, entries, first, b =>
    match b with
    | [] => do
      let rest ← expectByte 125 b
      return (.inlineTable entries, rest)
    | _ => do
      match skipBlanks b with
      | [] => refuse "inline table is incomplete"
      | 125 :: rest => return (.inlineTable entries, rest)
      | b =>
        let b ← if first then pure b else (expectByte 44 b).map skipBlanks
        let ((k, v), rest) ← keyValuePair fuel b
        tableEntries fuel (entries ++ [(k, v)]) false rest

/-- Read a key-value pair: a key, `=`, a value. -/
def keyValuePair : Nat → Bytes → Except Bytes ((Key × Literal) × Bytes)
  | 0, _ => refuse "document nested too deeply"
  | fuel + 1, b => do
    let (k, b) ← key b
    let b := skipBlanks b
    if b.isEmpty then refuse "expected = after a key, but the document ends there"
    let b ← expectByte 61 b
    let (v, rest) ← value fuel (skipBlanks b)
    return ((k, v), rest)

end

/-- Read what stands on a line up to its end: nothing, a comment, or an expression followed by
blanks and a comment. -/
def Expression.read (fuel : Nat) (b : Bytes) : Except Bytes ((Option Expression) × Bytes) := do
  let b := skipBlanks b
  match b with
  | [] => return (none, [])
  | 35 :: _ => return (none, ← skipComment b)
  | 10 :: _ | 13 :: _ => return (none, b)
  | _ =>
    let (e, rest) ← match b with
      | 91 :: 91 :: r => do
        let (k, rest) ← key (skipBlanks r)
        let rest ← expectByte 93 (skipBlanks rest)
        let rest ← expectByte 93 rest
        pure (Expression.arrayTable k, rest)
      | 91 :: r => do
        let (k, rest) ← key (skipBlanks r)
        let rest ← expectByte 93 (skipBlanks rest)
        pure (Expression.table k, rest)
      | _ => do
        let ((k, v), rest) ← keyValuePair fuel b
        pure (Expression.keyValue k v, rest)
    let rest := skipBlanks rest
    match rest with
    | 35 :: _ => return (some e, ← skipComment rest)
    | _ => return (some e, rest)

/-- The next expression of a document and the text after it, or none at the document's end.
Every expression but the first must start on a new line (`first` says whether one was read
yet). -/
def Expression.next? (b : Bytes) (first : Bool) : Except Bytes (Option (Expression × Bytes)) :=
  go b first (2 * b.length + 2)
where
  go (b : Bytes) (first : Bool) : Nat → Except Bytes (Option (Expression × Bytes))
    | 0 => .ok none
    | fuel + 1 => do
      if b.isEmpty then return none
      let b ← if first then pure b else newline b
      if b.isEmpty then return none
      match ← Expression.read (2 * b.length + 8) b with
      | (some e, rest) => return some (e, rest)
      | (none, rest) => go rest false fuel

end ShaderVariants.Toml
