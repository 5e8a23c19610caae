import ShaderVariants.Text.Utf8
/-!
# Blank characters

The blanks are the characters with the Unicode White_Space property: the ASCII tab, line feed,
vertical tab, form feed, carriage return and space, NEL (U+0085), the no-break space, the Ogham
space mark, the sixteen spaces of the General Punctuation block and the ideographic space. A
stray byte is never blank.

`Bytes.trimBlank` removes blank characters from both ends of a text; `Bytes.isBlankRun` says that
a text is made of blanks only.
-/

namespace ShaderVariants

/-- Whether the scalar value `c` is a blank (White_Space) character. -/
def isBlank (c : Nat) : Bool :=
  (9 ≤ c && c ≤ 13) || c == 32 || c == 0x85 || c == 0xA0 || c == 0x1680 ||
    (0x2000 ≤ c && c ≤ 0x200A) || c == 0x2028 || c == 0x2029 || c == 0x202F ||
    c == 0x205F || c == 0x3000

namespace Glyph

/-- Whether a glyph is a blank character. -/
def blank (g : Glyph) : Bool :=
  match g with
  | char c _ => isBlank c
  | stray _ => false

end Glyph

namespace Bytes

/-- The text without the blank characters at its start and at its end. -/
def trimBlank (s : Bytes) : Bytes :=
  ((((Glyph.decode s).dropWhile Glyph.blank).reverse.dropWhile Glyph.blank).reverse.map
    Glyph.bytes).flatten

/-- Whether every character of the text is blank (an empty text is). -/
def isBlankRun (s : Bytes) : Bool := (Glyph.decode s).all Glyph.blank

end Bytes

-- The ASCII blanks are blank.
example : isBlank 32 ∧ isBlank 9 ∧ isBlank 10 ∧ isBlank 13 := by decide

end ShaderVariants
