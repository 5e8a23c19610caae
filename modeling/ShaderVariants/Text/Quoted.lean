import ShaderVariants.Text.Printable
/-!
# Quoted texts

The quoted form of a text, as error messages and outlines print names, paths and raw lines:
the text between double quotes, where

* a double quote and a backslash get a backslash before them;
* printable characters stand as they are;
* the controls with a one-letter escape are written `\a \b \f \n \r \t \v`;
* other characters below U+0020, and U+007F, are written `\x` and two hex digits;
* other characters that are not printable are written `\u` and four hex digits, or `\U` and
  eight when they lie above U+FFFF;
* a stray byte, which spells no character, is written `\x` and its two hex digits.

Hex digits are lower case.
-/

namespace ShaderVariants

namespace Quoted

/-- The lower-case hex digit of `n`, for `n < 16`. -/
def hexDigit (n : Nat) : UInt8 :=
  if n < 10 then (48 + n).toUInt8 else (87 + n).toUInt8

/-- The `width` lowest hex digits of `n`, most significant first. -/
def hex (width n : Nat) : Bytes :=
  (List.range width).reverse.map fun i => hexDigit (n / Nat.pow 16 i % 16)

/-- A backslash followed by `s`. -/
def escape (s : String) : Bytes := 92 :: Bytes.ofString s

/-- The written form of a character that is not printable. -/
def control (c : Nat) : Bytes :=
  match c with
  | 7 => escape "a"
  | 8 => escape "b"
  | 12 => escape "f"
  | 10 => escape "n"
  | 13 => escape "r"
  | 9 => escape "t"
  | 11 => escape "v"
  | _ =>
    if c < 32 || c == 0x7F then escape "x" ++ hex 2 c
    else if c < 0x10000 then escape "u" ++ hex 4 c
    else escape "U" ++ hex 8 c

/-- The written form of one glyph inside the quotes. -/
def glyph : Glyph → Bytes
  | .stray b => escape "x" ++ hex 2 b.toNat
  | .char c bs =>
    if c == 34 || c == 92 then [92, c.toUInt8]
    else if isPrintable c then bs
    else control c

end Quoted

namespace Bytes

/-- The quoted form of a text. -/
def quote (s : Bytes) : Bytes :=
  34 :: ((Glyph.decode s).flatMap Quoted.glyph ++ [34])

end Bytes

end ShaderVariants
