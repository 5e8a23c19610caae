import ShaderVariants.Text.Bytes
/-!
# Base64 text

Base64 writes three bytes as four characters of the standard alphabet (`A`–`Z`, `a`–`z`,
`0`–`9`, `+`, `/`), six bits each. A final group of one or two bytes is written as two or three
characters padded with `=` to four.

`Base64.decode?` reads such a text back. Line breaks (carriage return, line feed) may stand
anywhere and are skipped; otherwise the text must be whole groups of four, padding may only end
the last group, and the bits beyond the last whole byte are ignored. Anything else is refused.
-/

namespace ShaderVariants.Base64

/-- The six-bit value of a character of the standard alphabet. -/
def digit? (c : UInt8) : Option Nat :=
  let n := c.toNat
  if 65 ≤ n && n ≤ 90 then some (n - 65)
  else if 97 ≤ n && n ≤ 122 then some (n - 71)
  else if 48 ≤ n && n ≤ 57 then some (n + 4)
  else if n == 43 then some 62
  else if n == 47 then some 63
  else none

/-- The bytes of a value of `8 * count` bits, high byte first. -/
def bytesOf (value count : Nat) : Bytes :=
  (List.range count).reverse.map fun i => (value / Nat.pow 256 i % 256).toUInt8

/-- The bytes of one group of four characters: three, or fewer when the group ends in padding
(which only the last group may). -/
def group? (last : Bool) : Bytes → Option Bytes
  | [a, b, c, d] => do
    let a ← digit? a
    let b ← digit? b
    if c == 61 then
      if d == 61 && last then some (bytesOf ((a * 64 + b) / 16) 1) else none
    else
      let c ← digit? c
      if d == 61 then
        if last then some (bytesOf ((a * 4096 + b * 64 + c) / 4) 2) else none
      else
        let d ← digit? d
        some (bytesOf (((a * 64 + b) * 64 + c) * 64 + d) 3)
  | _ => none

/-- The groups of four characters of a text, or `none` when the last is short. -/
def groups : Bytes → Nat → Option (List Bytes)
  | [], _ => some []
  | _, 0 => none
  | s, fuel + 1 =>
    if s.length < 4 then none
    else (groups (s.drop 4) fuel).map (s.take 4 :: ·)

/-- The bytes a base64 text stands for, or `none` when it is not base64. -/
def decode? (s : Bytes) : Option Bytes := do
  let s := s.filter fun c => c != 10 && c != 13
  let gs ← groups s s.length
  let parts ← gs.zipIdx.mapM fun (g, i) => group? (i + 1 == gs.length) g
  return parts.flatten

end ShaderVariants.Base64
