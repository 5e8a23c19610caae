import ShaderVariants.Text.Blank
/-!
# Tokens of the directive language

A source is read line by line. A line is cut into words and blank runs (blank as in
`Text/Blank`); the words `#if`, `#elseif`, `#else`, `#endif` and `#include` are directive
keywords, the word right after `#if` or `#elseif` may be a negation (`not`, or a leading `!`),
and every `#{name}` inside a word, where the name is one or more ASCII letters, digits or
underscores, is a value reference. Everything else is text, and a text token holding a single
line feed closes every line.

Blanks that only separate a directive from what follows are dropped: the blank run after a
keyword or a negation, and the indentation before a conditional keyword. The indentation before
`#include` is kept. With these exceptions the tokens of a line spell the line back, followed by
its line feed (a value reference spelled `#{name}`).
-/

namespace ShaderVariants

/-- A place in a source: the file and the 1-based line number. -/
structure Place where
  file : Bytes
  line : Int
  deriving DecidableEq, Repr, Inhabited

/-- The kinds of token. -/
inductive TokenKind where
  /-- Literal text; the line end is a text token holding one line feed. -/
  | text
  /-- The keyword `#if`. -/
  | openIf
  /-- The keyword `#elseif`. -/
  | elseIf
  /-- The keyword `#else`. -/
  | otherwise
  /-- The keyword `#endif`. -/
  | endIf
  /-- A negation (`not` or `!`) in the word after `#if` or `#elseif`. -/
  | negation
  /-- The keyword `#include`. -/
  | include
  /-- A value reference `#{name}`; the token's text is the name. -/
  | reference
  deriving DecidableEq, Repr, Inhabited

namespace TokenKind

/-- Whether the kind opens, continues or closes a conditional region. -/
def conditional : TokenKind → Bool
  | openIf | elseIf | otherwise | endIf => true
  | _ => false

/-- Whether the kind is followed by a condition: `#if` and `#elseif`. -/
def takesCondition : TokenKind → Bool
  | openIf | elseIf => true
  | _ => false

end TokenKind

/-- A token: its kind, its text and where it stands. -/
structure Token where
  kind : TokenKind
  text : Bytes
  line : Int
  file : Bytes
  deriving DecidableEq, Repr, Inhabited

namespace Token

/-- The place a token stands at. -/
def place (t : Token) : Place := ⟨t.file, t.line⟩

/-- Whether the token ends its line. -/
def isLineEnd (t : Token) : Bool := t.kind == .text && t.text == [Bytes.lf]

/-- Whether the token is text made of blanks only, other than the line end. -/
def isBlank (t : Token) : Bool :=
  t.kind == .text && !t.text.isEmpty && !t.isLineEnd && Bytes.isBlankRun t.text

/-- The keyword a word spells, if it spells one. -/
def keyword? (w : Bytes) : Option TokenKind :=
  if w = Bytes.ofString "#if" then some .openIf
  else if w = Bytes.ofString "#elseif" then some .elseIf
  else if w = Bytes.ofString "#else" then some .otherwise
  else if w = Bytes.ofString "#endif" then some .endIf
  else if w = Bytes.ofString "#include" then some .include
  else none

/-- A piece of a line: a word, or a run of blanks. -/
structure Word where
  text : Bytes
  blank : Bool

/-- Gathers glyphs into maximal runs that are all blank or all not blank, continuing the run
`cur`. -/
def gather : Option Word → List Glyph → List Word
  | none, [] => []
  | some w, [] => [w]
  | none, g :: gs => gather (some ⟨g.bytes, g.blank⟩) gs
  | some w, g :: gs =>
    if g.blank == w.blank then gather (some ⟨w.text ++ g.bytes, w.blank⟩) gs
    else w :: gather (some ⟨g.bytes, g.blank⟩) gs

/-- The words and blank runs of a line, in order. -/
def words (line : Bytes) : List Word := gather none (Glyph.decode line)

/-- Whether a byte may stand in a value name: an ASCII letter, digit or underscore. -/
def isNameByte (b : UInt8) : Bool :=
  (48 ≤ b && b ≤ 57) || (65 ≤ b && b ≤ 90) || (97 ≤ b && b ≤ 122) || b == 95

/-- The value reference at the start of a text, `#{name}`, as the name and what follows it. -/
def referenceAt? : Bytes → Option (Bytes × Bytes)
  | 35 :: 123 :: r =>
    match r.takeWhile isNameByte, r.dropWhile isNameByte with
    | [], _ => none
    | name, 125 :: rest => some (name, rest)
    | _, _ => none
  | _ => none

theorem referenceAt?_shorter {s name rest : Bytes} (h : referenceAt? s = some (name, rest)) :
    rest.length < s.length := by
  unfold referenceAt? at h
  split at h
  · next r =>
    split at h
    · simp at h
    · next rest' hd _ =>
      simp only [Option.some.injEq, Prod.mk.injEq] at h
      obtain ⟨-, rfl⟩ := h
      have hl := (List.dropWhile_suffix isNameByte (l := r)).length_le
      rw [hd] at hl
      simp only [List.length_cons] at hl ⊢
      omega
    · simp at h
  · simp at h

/-- The text before a value reference, as a token list (empty text gives no token). -/
def pending (acc : Bytes) : List (TokenKind × Bytes) :=
  if acc.isEmpty then [] else [(.text, acc)]

/-- The text and reference tokens of a word, `acc` being text already passed over. Value
references are found left to right and never overlap. -/
def splitReferences (acc : Bytes) (s : Bytes) : List (TokenKind × Bytes) :=
  match _h : referenceAt? s with
  | some (name, rest) => pending acc ++ (.reference, name) :: splitReferences [] rest
  | none =>
    match s with
    | [] => pending acc
    | b :: r => splitReferences (acc ++ [b]) r
termination_by s.length
decreasing_by
  · exact referenceAt?_shorter _h
  · simp

/-- Where the line's reading stands: whether only blanks were seen, whether the last word was
`#if` or `#elseif`, whether the last word was a keyword or a negation, and the indentation held
back until the line shows whether a conditional keyword follows it. -/
structure LineState where
  leading : Bool := true
  afterCondition : Bool := false
  afterDirective : Bool := false
  indent : Bytes := []

/-- The indentation held back, as tokens. -/
def LineState.held (st : LineState) : List (TokenKind × Bytes) := pending st.indent

/-- The state after the keyword of kind `k`. -/
def LineState.afterKeyword (k : TokenKind) : LineState :=
  { leading := false, afterCondition := k.takesCondition, afterDirective := true, indent := [] }

/-- The tokens of the words of a line, from the state `st`, closed by the line end. -/
def scan (st : LineState) : List Word → List (TokenKind × Bytes)
  | [] => st.held ++ [(.text, [Bytes.lf])]
  | w :: ws =>
    if w.blank then
      if st.afterDirective then scan st ws
      else if st.leading then scan { st with indent := w.text } ws
      else (.text, w.text) :: scan st ws
    else
      match keyword? w.text with
      | some k =>
        (if k.conditional then [] else st.held) ++
          (k, w.text) :: scan (LineState.afterKeyword k) ws
      | none =>
        let st' : LineState := { st with indent := [], leading := false, afterCondition := false }
        let plain (word : Bytes) : List (TokenKind × Bytes) :=
          splitReferences [] word ++ scan { st' with afterDirective := false } ws
        st.held ++
          if st.afterCondition then
            if w.text = Bytes.ofString "not" then (.negation, w.text) :: scan st' ws
            else match w.text with
              | 33 :: rest =>
                (.negation, [33]) :: if rest.isEmpty then scan st' ws else plain rest
              | _ => plain w.text
          else plain w.text

/-- The tokens of one line (given without its line feed), numbered `line`, of `file`. -/
def ofLine (text : Bytes) (line : Int) (file : Bytes) : List Token :=
  (scan {} (words text)).map fun p => ⟨p.1, p.2, line, file⟩

/-- The lines of a source: CR LF becomes LF, one final LF is dropped, and the rest is cut at
each LF. An empty source has no lines. -/
def lines (src : Bytes) : List Bytes :=
  let s := Bytes.normalizeLineEnds src
  if s.isEmpty then [] else Bytes.splitOn Bytes.lf (Bytes.dropFinalLf s)

/-- The tokens of a whole source, its lines numbered from 1. -/
def ofSource (src : Bytes) (file : Bytes) : List Token :=
  ((lines src).zipIdx 1).flatMap fun p => ofLine p.1 p.2 file

end Token

end ShaderVariants
