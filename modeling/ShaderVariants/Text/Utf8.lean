import ShaderVariants.Text.Bytes
/-!
# Reading a byte text as characters

A byte text is read as UTF-8, one character at a time. A byte that starts no well-formed
sequence (a stray continuation byte, an overlong or surrogate form, a sequence cut short) is
read on its own as a stray byte, which counts as U+FFFD, and reading goes on at the next byte.
So every byte of the text belongs to exactly one glyph, and joining the glyphs' bytes gives the
text back (`Glyph.join_decode`).
-/

namespace ShaderVariants

/-- One character of a byte text: a scalar value with the bytes that spell it, or one stray
byte that spells nothing. -/
inductive Glyph where
  | char (code : Nat) (bytes : Bytes)
  | stray (byte : UInt8)
  deriving DecidableEq, Repr

namespace Glyph

/-- The replacement character U+FFFD, the value a stray byte reads as. -/
def replacement : Nat := 0xFFFD

/-- The scalar value a glyph reads as. -/
def code : Glyph → Nat
  | char c _ => c
  | stray _ => replacement

/-- The bytes of the text that the glyph covers. -/
def bytes : Glyph → Bytes
  | char _ bs => bs
  | stray b => [b]

/-- Whether `b` lies in `lo..hi`, both ends included. -/
def within (b lo hi : UInt8) : Bool := lo ≤ b && b ≤ hi

/-- The scalar value and the number of continuation bytes of the well-formed sequence that
starts with `b0` and goes on with `r`, if it is one. The second byte's range depends on the
first (no overlong forms, no surrogates, nothing above U+10FFFF). -/
def lead (b0 : UInt8) (r : Bytes) : Option (Nat × Nat) :=
  let low (b : UInt8) : Nat := (b % 64).toNat
  if b0 < 0x80 then some (b0.toNat, 0)
  else if b0 < 0xC2 then none
  else if b0 < 0xE0 then
    match r with
    | b1 :: _ => if within b1 0x80 0xBF then some ((b0 % 32).toNat * 64 + low b1, 1) else none
    | [] => none
  else if b0 < 0xF0 then
    let lo : UInt8 := if b0 = 0xE0 then 0xA0 else 0x80
    let hi : UInt8 := if b0 = 0xED then 0x9F else 0xBF
    match r with
    | b1 :: b2 :: _ =>
      if within b1 lo hi && within b2 0x80 0xBF then
        some ((b0 % 16).toNat * 4096 + low b1 * 64 + low b2, 2)
      else none
    | _ => none
  else if b0 < 0xF5 then
    let lo : UInt8 := if b0 = 0xF0 then 0x90 else 0x80
    let hi : UInt8 := if b0 = 0xF4 then 0x8F else 0xBF
    match r with
    | b1 :: b2 :: b3 :: _ =>
      if within b1 lo hi && within b2 0x80 0xBF && within b3 0x80 0xBF then
        some ((b0 % 8).toNat * 262144 + low b1 * 4096 + low b2 * 64 + low b3, 3)
      else none
    | _ => none
  else none

/-- The glyphs of a byte text, in order. -/
def decode : Bytes → List Glyph
  | [] => []
  | b :: r =>
    match lead b r with
    | some (c, n) => char c (b :: r.take n) :: decode (r.drop n)
    | none => stray b :: decode r
termination_by s => s.length
decreasing_by all_goals (simp only [List.length_drop, List.length_cons]; omega)

/-- The UTF-8 bytes of a character; a number that is no scalar value (a surrogate, or above
U+10FFFF) is written as the replacement character. -/
def encode (c : Nat) : Bytes :=
  let c := if (0xD800 ≤ c && c < 0xE000) || 0x10FFFF < c then replacement else c
  if c < 0x80 then [c.toUInt8]
  else if c < 0x800 then [(0xC0 + c / 64).toUInt8, (0x80 + c % 64).toUInt8]
  else if c < 0x10000 then
    [(0xE0 + c / 4096).toUInt8, (0x80 + c / 64 % 64).toUInt8, (0x80 + c % 64).toUInt8]
  else
    [(0xF0 + c / 262144).toUInt8, (0x80 + c / 4096 % 64).toUInt8,
      (0x80 + c / 64 % 64).toUInt8, (0x80 + c % 64).toUInt8]

/-- The bytes an encoder that writes only UTF-8, as JSON's does, writes for a glyph: a
character's own, and U+FFFD for a stray byte. -/
def utf8Bytes : Glyph → Bytes
  | char _ bs => bs
  | stray _ => encode replacement

/-- The text with each stray byte replaced by U+FFFD: what JSON writes for it, and so what reads
back from what it wrote. -/
def scrub (s : Bytes) : Bytes := (decode s).flatMap utf8Bytes

/-- Joining the glyphs' bytes gives back the text they were read from. -/
theorem join_decode (s : Bytes) : ((decode s).map bytes).flatten = s := by
  induction s using decode.induct with
  | case1 => simp [decode]
  | case2 b r c n h ih =>
    rw [decode]; simp only [h, List.map_cons, List.flatten_cons, bytes, ih]
    simp
  | case3 b r h ih =>
    rw [decode]; simp only [h, List.map_cons, List.flatten_cons, bytes, ih]
    simp

end Glyph

end ShaderVariants
